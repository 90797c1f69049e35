import EdgeIncludes.Url.Basic

namespace EdgeIncludes
namespace Url

def decodeForm (t : Text) : Text :=
  Text.Utf8.decodeLossy (Text.Percent.decode (t.map fun c => if c = '+' then ' ' else c))

def queryPair (t : Text) : Text × Text :=
  let (key, value) := (Text.cut? ['='] t).getD (t, [])
  (decodeForm key, decodeForm value)

def pairsOf (query : Text) : List (Text × Text) :=
  ((Text.splitOn ['&'] query).filter (· ≠ [])).map queryPair

def queryPairs (u : Url) : List (Text × Text) := pairsOf (u.query?.getD [])

-- The value of the first pair with a key.
def queryValue? (u : Url) (key : Text) : Option Text :=
  (u.queryPairs.find? (·.1 = key)).map (·.2)

end Url
end EdgeIncludes
