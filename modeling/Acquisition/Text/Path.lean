/-! Slash-separated file paths in their shortest equivalent form, as `..` and `.` elements are
resolved. -/
namespace Acquisition.Text

/-- The elements of a path after removing `.` and resolving `..` where possible. -/
def resolveElements (rooted : Bool) : List String → List String → List String
  | kept, [] => kept.reverse
  | kept, e :: rest =>
    if e.isEmpty || e == "." then resolveElements rooted kept rest
    else if e == ".." then
      match kept with
      | k :: ks => if k == ".." then resolveElements rooted (e :: kept) rest else resolveElements rooted ks rest
      | [] => if rooted then resolveElements rooted [] rest else resolveElements rooted [e] rest
    else resolveElements rooted (e :: kept) rest

def cleanPath (p : String) : String :=
  let rooted := p.startsWith "/"
  let body := "/".intercalate (resolveElements rooted [] (p.splitOn "/"))
  if rooted then "/" ++ body else if body.isEmpty then "." else body

/-- The elements joined by slashes, empty ones ignored, then cleaned; no elements give the empty path. -/
def joinPath (elements : List String) : String :=
  match elements.filter (!·.isEmpty) with
  | [] => ""
  | es => cleanPath ("/".intercalate es)

end Acquisition.Text
