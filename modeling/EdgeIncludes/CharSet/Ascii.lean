import EdgeIncludes.CharSet.Basic

namespace EdgeIncludes
namespace CharSet

def asciiDigit : CharSet := range 48 57

def asciiWord : CharSet := ⟨[(48, 57), (65, 90), (95, 95), (97, 122)]⟩

def asciiBlank : CharSet := ⟨[(9, 13), (32, 32)]⟩

-- The classes that are written `[:name:]`.
def posixClasses : List (String × CharSet) := [
  ("alnum", ⟨[(48, 57), (65, 90), (97, 122)]⟩),
  ("alpha", ⟨[(65, 90), (97, 122)]⟩),
  ("ascii", range 0 127),
  ("blank", ⟨[(9, 9), (32, 32)]⟩),
  ("cntrl", ⟨[(0, 31), (127, 127)]⟩),
  ("digit", asciiDigit),
  ("graph", range 33 126),
  ("lower", range 97 122),
  ("print", range 32 126),
  ("punct", ⟨[(33, 47), (58, 64), (91, 96), (123, 126)]⟩),
  ("space", asciiBlank),
  ("upper", range 65 90),
  ("word", asciiWord),
  ("xdigit", ⟨[(48, 57), (65, 70), (97, 102)]⟩)]

def posix? (name : Text) : Option CharSet :=
  (posixClasses.find? (·.1.toList = name)).map (·.2)

end CharSet
end EdgeIncludes
