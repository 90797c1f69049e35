import EdgeIncludes.Site.Origin

open EdgeIncludes

namespace EdgeIncludes.Site

def load (path : Text) : IO Reading := do
  try
    return .found (← IO.FS.readFile (String.ofList path)).toList
  catch
    | .noFileOrDirectory .. => return .missing
    | e => return .failed e.toString.toList

-- A file that has not been read yet counts as missing.
def lookup (known : Bindings Reading) (path : Text) : Reading := (known.get? path).getD .missing

-- Makes the page again with the files that the last attempt asked for, until none is new.
partial def settle (root path : Text) (known : Bindings Reading) :
    IO (Traffic × Except Fault Text) := do
  let made := page root (lookup known) path
  match (asked root made.1).filter fun p => (known.get? p).isNone with
  | [] => return made
  | new =>
    let mut known := known
    for p in new do
      known := known.set p (← load p)
    settle root path known

end EdgeIncludes.Site

def main (args : List String) : IO UInt32 := do
  let arg := fun (n : Nat) (other : Text) => (args[n]?.map String.toList).getD other
  let (traffic, page) ← Site.settle (arg 0 Site.defaultRoot) (arg 1 Site.defaultPath) ⟨[]⟩
  for entry in traffic.log do
    IO.eprintln (String.ofList entry.line)
  if let .error f := page then
    IO.eprintln (String.ofList f.message)
  let (out, code) := Site.result page
  IO.print (String.ofList out)
  return code
