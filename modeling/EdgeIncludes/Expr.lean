import EdgeIncludes.Literal
import EdgeIncludes.Reference

namespace EdgeIncludes

inductive Term where
  | literal (v : Value)
  -- Text with references, which are substituted when it is evaluated.
  | interpolated (t : Text)
  -- A word that is no literal stands for itself.
  | bare (t : Text)
deriving DecidableEq

inductive Expr where
  | term (t : Term)
  | concat (ts : List Term)
deriving DecidableEq

namespace Term

def eval (ctx : Context) : Term → Value
  | literal v => v
  | interpolated t => .text (substitute ctx t)
  | bare t => .text t

def ofWord (t : Text) : Term := ((Literal.simple? t).map literal).getD (bare t)

-- An operand of a concatenation. A quoted text is never searched for references.
def ofOperand (t : Text) : Term :=
  match unquote? t with
  | some inner => literal (.text inner)
  | none => if Text.contains opener t then interpolated t else ofWord t

end Term

namespace Expr

def eval (ctx : Context) : Expr → Value
  | term t => t.eval ctx
  | concat ts => .text (ts.flatMap fun t => (t.eval ctx).toText)

def ofOperands (t : Text) : Expr :=
  concat ((splitTop '+' t).map fun p => Term.ofOperand (Text.trim p))

-- A value as it is written in an assignment, in order of precedence.
def ofAssignment (t : Text) : Expr :=
  let t := Text.trim t
  if 1 < (splitTop '+' t).length then ofOperands t
  else if Text.contains opener t then term (.interpolated t)
  else
    match between? "'''".toList t with
    | some inner => term (.literal (.text inner))
    | none =>
      match Literal.whole? (Literal.list? t) with
      | some xs => term (.literal (.list xs))
      | none =>
        match Literal.whole? (Literal.entries? t) with
        | some es => term (.literal (.dictionary (.ofList es)))
        | none => term (Term.ofWord t)

end Expr

-- The value of a text that is a single literal or a word.
def evalWord (t : Text) : Value := (Term.ofWord t).eval {}

def evalConcat (ctx : Context) (t : Text) : Text := ((Expr.ofOperands t).eval ctx).toText

end EdgeIncludes
