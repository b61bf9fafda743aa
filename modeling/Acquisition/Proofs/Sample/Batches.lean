import Acquisition.Sample.Batch
import Mathlib
/-! Batches channel by channel: appending, joining a list of batches, and batches whose four
channels have one length. -/
namespace Acquisition

namespace Batch

/-- Channel `ch` of the batch. Statements name channels this way: the index needs
no bound proof, so no statement carries one that a tactic found. -/
def channel (b : Batch) (ch : Fin 4) : Array Float32 := b.channels.get ch

@[simp] theorem channel_eq_getElem (b : Batch) (ch : Fin 4) : b.channel ch = getElem b.channels ch ch.isLt :=
  rfl

theorem channels_get (b : Batch) (ch : Fin 4) : b.channels.get ch = b.channel ch := rfl

theorem channel_append (b c : Batch) (ch : Fin 4) : (b ++ c).channel ch = b.channel ch ++ c.channel ch :=
  channels_append b c ch

def Uniform (b : Batch) : Prop := ∀ ch : Fin 4, (b.channel ch).size = b.length

instance : DecidablePred Uniform := fun b =>
  inferInstanceAs (Decidable (∀ ch : Fin 4, (b.channel ch).size = b.length))

theorem length_append (b c : Batch) : (b ++ c).length = b.length + c.length := by
  have first := congrArg Array.size (channels_append b c 0)
  simpa [length, Array.size_append] using first

theorem Uniform.append {b c : Batch} (hb : b.Uniform) (hc : c.Uniform) : (b ++ c).Uniform := by
  intro ch
  rw [channel_append, length_append, Array.size_append, hb ch, hc ch]

theorem uniform_empty : empty.Uniform := by decide

theorem channels_foldl_append (bs : List Batch) (acc : Batch) (ch : Fin 4) :
    ((bs.foldl append acc).channel ch).toList =
      (acc.channel ch).toList ++ bs.flatMap fun b => (b.channel ch).toList := by
  induction bs generalizing acc with
  | nil => simp
  | cons b bs ih =>
    rw [List.foldl_cons, ih, List.flatMap_cons, ← List.append_assoc]
    have joined : ((acc ++ b).channel ch).toList = (acc.channel ch).toList ++ (b.channel ch).toList := by
      rw [channel_append, Array.toList_append]
    exact congrArg (· ++ _) joined

theorem channels_concat (bs : List Batch) (ch : Fin 4) :
    ((concat bs).channel ch).toList = bs.flatMap fun b => (b.channel ch).toList := by
  rw [concat, channels_foldl_append]
  simp [empty]

theorem ext_channels {b c : Batch}
    (same : ∀ ch : Fin 4, (b.channel ch).toList = (c.channel ch).toList) : b = c := by
  obtain ⟨bs⟩ := b
  obtain ⟨cs⟩ := c
  congr 1
  exact Vector.ext fun i inside => Array.toList_inj.1 (same ⟨i, inside⟩)

theorem append_empty (b : Batch) : b ++ empty = b :=
  ext_channels fun ch => by
    rw [channel_append]
    simp [empty]

theorem empty_append (b : Batch) : empty ++ b = b :=
  ext_channels fun ch => by
    rw [channel_append]
    simp [empty]

theorem append_concat_cons (seen b : Batch) (bs : List Batch) :
    seen ++ concat (b :: bs) = seen ++ b ++ concat bs :=
  ext_channels fun ch => by
    simp only [channel_append, Array.toList_append, channels_concat, List.flatMap_cons,
      List.append_assoc]

theorem append_assoc (a b c : Batch) : a ++ b ++ c = a ++ (b ++ c) :=
  ext_channels fun ch => by
    simp only [channel_append, Array.toList_append, List.append_assoc]

theorem concat_append (xs ys : List Batch) : concat (xs ++ ys) = concat xs ++ concat ys :=
  ext_channels fun ch => by
    simp only [channels_concat, channel_append, Array.toList_append, List.flatMap_append]

theorem concat_singleton (b : Batch) : concat [b] = b := empty_append b

theorem Uniform.concat {bs : List Batch} (uniform : ∀ b ∈ bs, b.Uniform) : (concat bs).Uniform := by
  -- the fold starts from the empty batch and appends one uniform batch at a time
  suffices fold : ∀ acc : Batch, acc.Uniform → (bs.foldl Batch.append acc).Uniform from
    fold empty uniform_empty
  induction bs with
  | nil => exact fun acc uniform_acc => uniform_acc
  | cons b bs ih =>
    intro acc uniform_acc
    exact ih (fun c mem => uniform c (List.mem_cons_of_mem b mem)) _
      (uniform_acc.append (uniform b List.mem_cons_self))

theorem eq_empty_of_isEmpty {b : Batch} (uniform : b.Uniform) (none : b.isEmpty = true) : b = empty :=
  ext_channels fun ch => by
    have size : (b.channel ch).size = 0 := by
      rw [uniform ch]
      simpa [isEmpty] using none
    rw [Array.eq_empty_of_size_eq_zero size]
    simp [empty]

end Batch

end Acquisition
