import EdgeIncludes.Fault

namespace EdgeIncludes

inductive LogEntry where
  | effect (e : Effect)
  | callFailed (f : CallFault)
  | removed (tag : Text) (f : Fault)
  | badHeader (name : Text)
  | fetchFailed (url : Text) (f : Fault)
deriving DecidableEq

abbrev Log := List LogEntry

namespace Effect

def message : Effect → Text
  | redirect location => "set_redirect: ".toList ++ location
  | responseCode code => "set_response_code: ".toList ++ code.text
  | header name value => "add_header: ".toList ++ name ++ '=' :: value
  | cachebusting => "add_cachebusting_header".toList

end Effect

namespace LogEntry

def warning (t : Text) : Text := "WARN ".toList ++ t

-- The line of an entry, with its level in front.
def line : LogEntry → Text
  | effect e => "INFO ".toList ++ e.message
  | callFailed f => warning (Fault.badCall f).message
  | removed tag f => warning ("removing `".toList ++ tag ++ "`: ".toList ++ f.message)
  | badHeader name =>
    warning ("skipping invalid fragment header `".toList ++ name ++ ['`'])
  | fetchFailed url f =>
    warning ("fragment request for ".toList ++ url ++ " failed: ".toList ++ f.message)

end LogEntry
end EdgeIncludes
