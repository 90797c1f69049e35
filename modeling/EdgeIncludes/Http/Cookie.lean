import EdgeIncludes.Http.Header
import EdgeIncludes.Text.Blank
import EdgeIncludes.Text.Percent

namespace EdgeIncludes
namespace Http

-- A pair without a name or without a value is no cookie.
def cookie? (t : Text) : Option (Text × Text) :=
  (Text.cut? ['='] (Text.trim t)).bind fun c =>
    let name := Text.trim c.1
    if name = [] || c.2 = [] then none
    else some (name, (Text.Utf8.decode? (Text.Percent.decode c.2)).getD c.2)

def cookies (t : Text) : List (Text × Text) := (Text.splitOn [';'] t).filterMap cookie?

-- The cookies of all header fields in order.
def Headers.cookies (h : Headers) : List (Text × Text) :=
  (h.texts "cookie".toList).flatMap Http.cookies

end Http
end EdgeIncludes
