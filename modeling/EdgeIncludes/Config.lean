import EdgeIncludes.Http.Message
import EdgeIncludes.Markup.Delimiter

namespace EdgeIncludes

structure Config where
  tagNamespace : Text := "esi".toList
  -- Without it only responses that opt in are processed.
  enabled : Bool := true
  -- The response header that is searched for the two tokens.
  controlHeader : Text := "edge-control".toList
  optInToken : Text := "dca=esi".toList
  optOutToken : Text := "dca=noop".toList
  -- The headers that mark a request as one for a fragment, and the token of the second.
  fragmentHeader : Text := "x-esi-fragment".toList
  loopHeader : Text := "x-esi-loop".toList
  loopToken : Text := "1".toList
  -- The host variables that name a host for fragments, and further headers as `name=value` pairs.
  hostVariable : Text := "builtin.ESI_FRAGMENT_HOST".toList
  headersVariable : Text := "builtin.ESI_FRAGMENT_HEADERS".toList
  -- Whether addresses in attributes have character references.
  escaped : Bool := true
deriving DecidableEq

namespace Config

-- The text whose presence marks a body as a document with elements.
def marker (c : Config) : Text := Markup.openMark c.tagNamespace

def hasToken (c : Config) (r : Http.Response) (token : Text) : Bool :=
  (r.headers.texts c.controlHeader).any fun v => Text.contains token v

-- The body has an element, and processing is on or asked for, and not refused.
def processes (c : Config) (r : Http.Response) : Bool :=
  Text.contains c.marker r.body && (c.enabled || c.hasToken r c.optInToken) &&
    !c.hasToken r c.optOutToken

end Config
end EdgeIncludes
