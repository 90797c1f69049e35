import EdgeIncludes.Builtin.Basic
import EdgeIncludes.Http.Message

namespace EdgeIncludes

inductive Fault where
  | missingAttribute (tag name : Text)
  | badCall (f : CallFault)
  | badUrl (url : Text)
  | fetchFailed (reason : Text)
  | badRequest (f : Http.MessageFault)
  | noFragment (markup : Text)
deriving DecidableEq

namespace Fault

def message : Fault → Text
  | missingAttribute tag name =>
    "tag `".toList ++ tag ++ "` is missing required parameter `".toList ++ name ++ ['`']
  | badCall f => "function error: ".toList ++ f.message.toList
  | badUrl url => "invalid request URL provided: `".toList ++ url ++ ['`']
  | fetchFailed reason => "error sending request: ".toList ++ reason
  | badRequest f => "invalid HTTP request: ".toList ++ f.message.toList
  | noFragment markup =>
    "no pending fragment left for include `".toList ++ markup ++ ['`']

end Fault
end EdgeIncludes
