import EdgeIncludes.Condition
import EdgeIncludes.Literal

namespace EdgeIncludes

inductive Collection where
  | split (name separator : Text)
  | stored (name : Text)
  | literal (items : List Text)
  | empty
deriving DecidableEq

namespace Collection

-- A reference, bare or as `$str(...)`.
def source? (t : Text) : Option (Text × Text) :=
  let wrapped := do
    let r ← Text.after? "$str(".toList t
    let (name, r) ← reference? (Text.skipGap r)
    let r ← Text.after? [')'] (Text.skipGap r)
    pure (name, r)
  wrapped.or (reference? t)

-- `$string_split($(name), 'separator')`.
def split? (t : Text) : Option ((Text × Text) × Text) := do
  let r ← Text.after? "$string_split(".toList t
  let (name, r) ← source? (Text.skipGap r)
  let r ← Literal.mark? ',' r
  let (separator, r) ← Literal.quoted? r
  let r ← Text.after? [')'] (Text.skipGap r)
  pure ((name, separator), r)

def ofText (t : Text) : Collection :=
  let t := Text.trim t
  match Literal.whole? (split? t) with
  | some (name, separator) => split name separator
  | none =>
    match Literal.whole? (reference? t) with
    | some name => stored name
    | none =>
      match Literal.whole? ((Literal.list? t).map fun p => (p.1, Text.skipGap p.2)) with
      | some items => literal items
      | none => empty

-- A list gives its items. Any other value is cut at the separator, a text without one at commas.
def items (ctx : Context) : Collection → List Text
  | split name separator =>
    match ctx.get? name with
    | some (.list items) => items
    | some v => if separator = [] then [] else Text.splitOn separator v.toText
    | none => []
  | stored name =>
    match ctx.get? name with
    | some (.list items) => items
    | some (.text t) => Text.splitOn [','] t
    | _ => []
  | literal items => items
  | empty => []

end Collection

def itemsOf (ctx : Context) (t : Text) : List Text := (Collection.ofText t).items ctx

end EdgeIncludes
