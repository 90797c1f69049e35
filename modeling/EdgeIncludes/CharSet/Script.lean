import EdgeIncludes.CharSet.Script.Table
import EdgeIncludes.CharSet.Table

namespace EdgeIncludes
namespace CharSet

-- Codes that stand for another one.
def formerCodes : List (String × String) := [("qaai", "zinh"), ("qaac", "copt")]

-- The code of a script that is named by code or by name.
def scriptCode? (name : Text) : Option String :=
  let code := ((formerCodes.find? (·.1.toList = name)).map (·.2.toList)).getD name
  (scriptTable.find? fun row => row.1.toList = code || row.2.1.toList = code).map (·.1)

def scriptOf (code : String) : CharSet :=
  ((scriptTable.find? (·.1 = code)).map fun row => ofTable row.2.2).getD empty

def scriptNamed? (name : Text) : Option CharSet := (scriptCode? name).map scriptOf

-- Whether a script is among the codes of some lines.
def namesScript (lines : List String) (code : String) : Bool :=
  lines.any fun line => (Text.splitOn [' '] line.toList).contains code.toList

-- A character whose scripts are listed is in use with these and with no other.
def scriptUsersNamed? (name : Text) : Option CharSet :=
  (scriptCode? name).map fun code =>
    let listed := unionAll (scriptUses.map fun row => ofTable row.2)
    let users := scriptUses.filter fun row => namesScript row.1 code
    ((scriptOf code).diff listed).union (unionAll (users.map fun row => ofTable row.2))

end CharSet
end EdgeIncludes
