import EdgeIncludes.Expr
import EdgeIncludes.Proofs.Balance

namespace EdgeIncludes

inductive Summand where
  | quoted (t : Text)
  | named (name : Text)

namespace Summand

def toText : Summand → Text
  | quoted t => '\'' :: (t ++ ['\''])
  | named name => token name

-- A variable that is not set stands for its reference.
def meaning (ctx : Context) : Summand → Text
  | quoted t => t
  | named name => ((ctx.get? name).map Value.toText).getD (token name)

def Fits : Summand → Prop
  | quoted t => '\'' ∉ t
  | named name => PlainName name

end Summand

-- A further summand, with the blanks on both sides of the plus sign in front of it.
structure Addition where
  before : Text
  behind : Text
  summand : Summand

namespace Addition

def toText (a : Addition) : Text := a.before ++ '+' :: (a.behind ++ a.summand.toText)

structure Fits (a : Addition) : Prop where
  before : Text.isBlankText a.before = true
  behind : Text.isBlankText a.behind = true
  summand : a.summand.Fits

end Addition

def sumText (s : Summand) (more : List Addition) : Text := s.toText ++ more.flatMap Addition.toText

namespace Summand

variable {s : Summand}

theorem toText_ne_nil (s : Summand) : s.toText ≠ [] := by
  cases s <;> simp [toText, token, opener]

theorem balanced (h : s.Fits) : Balanced (· ≠ '+') s.toText := by
  cases s with
  | quoted t => exact .quotation h
  | named name =>
    have hn : Balanced (· ≠ ',') name := PlainName.balanced h (by decide)
    exact (hn.mono fun _ _ => trivial).token (by decide)

theorem edged (s : Summand) : Edged (Text.isBlank · = false) s.toText := by
  cases s with
  | quoted t => exact .enclosed (by decide) (by decide) t
  | named name => exact .enclosed (by decide) (by decide) ('(' :: name)

-- A summand stands for its meaning as an operand of a concatenation.
theorem eval_ofOperand (ctx : Context) (h : s.Fits) :
    (Term.ofOperand s.toText).eval ctx = .text (s.meaning ctx) := by
  cases s with
  | quoted t =>
    have hq : unquote? (quoted t).toText = some t := unquote?_quoted h
    rw [Term.ofOperand, hq]
    rfl
  | named name =>
    have hq : unquote? (named name).toText = none := unquote?_eq_none (by rintro c ⟨⟩; decide)
    have hc : Text.contains opener (named name).toText = true := by
      have hcut := Text.cut?_append (c := '$') (p := ['(']) (r := name ++ [')']) (a := []) (by simp)
      rw [Text.contains_eq_isSome, toText, token, List.append_assoc]
      exact congrArg Option.isSome hcut
    have hs : substitute ctx ([] ++ (token name ++ [])) = _ :=
      substitute_append_token (by rfl) h []
    have hnil : substitute ctx [] = [] := substitute_eq_self (by rfl)
    rw [hnil, List.append_nil, List.append_nil, List.nil_append, List.nil_append] at hs
    rw [Term.ofOperand, hq, hc]
    exact congrArg Value.text hs

end Summand

section Sum

variable {s : Summand} {a : Addition} {more : List Addition} {b : Text}

theorem sumText_cons (s : Summand) (a : Addition) (more : List Addition) :
    sumText s (a :: more) =
      s.toText ++ (a.before ++ '+' :: (a.behind ++ sumText a.summand more)) := by
  simp [sumText, Addition.toText]

-- A sum is cut at its own plus signs and nowhere else.
theorem splitTop_sumText (hs : s.Fits) (hmore : ∀ a ∈ more, a.Fits)
    (hb : Text.isBlankText b = true) :
    (splitTop '+' (b ++ sumText s more)).map Text.trim =
      s.toText :: more.map (·.summand.toText) := by
  have hfront := (balanced_of_isBlankText (by decide) hb).append (Summand.balanced hs)
  induction more generalizing s b with
  | nil =>
    have htrim := s.edged.trim_append s.toText_ne_nil hb (g := []) rfl
    rw [List.append_nil] at htrim
    rw [sumText, List.flatMap_nil, List.append_nil, hfront.splitTop_eq, List.map_singleton, htrim]
    rfl
  | cons a more ih =>
    have ha := hmore a (List.mem_cons_self ..)
    have hpart : Balanced (· ≠ '+') (b ++ (s.toText ++ a.before)) := by
      rw [← List.append_assoc]
      exact hfront.append (balanced_of_isBlankText (by decide) ha.before)
    have htext : b ++ sumText s (a :: more) =
        (b ++ (s.toText ++ a.before)) ++ '+' :: (a.behind ++ sumText a.summand more) := by
      rw [sumText_cons, List.append_assoc, List.append_assoc]
    have hcut : splitTop '+' (b ++ sumText s (a :: more)) =
        (b ++ (s.toText ++ a.before)) :: splitTop '+' (a.behind ++ sumText a.summand more) := by
      rw [htext, splitTop, splitFrom_append_cons (by decide) hpart.crosses_top.ends,
        hpart.crosses_top.whole]
      rfl
    have hrest := ih ha.summand (fun x hx => hmore x (List.mem_cons_of_mem _ hx)) ha.behind
      ((balanced_of_isBlankText (by decide) ha.behind).append (Summand.balanced ha.summand))
    rw [hcut, List.map_cons, s.edged.trim_append s.toText_ne_nil hb ha.before, hrest]
    rfl

theorem edged_sumText (s : Summand) (more : List Addition) :
    Edged (Text.isBlank · = false) (sumText s more) ∧ sumText s more ≠ [] := by
  induction more generalizing s with
  | nil =>
    rw [sumText, List.flatMap_nil, List.append_nil]
    exact ⟨s.edged, s.toText_ne_nil⟩
  | cons a more ih =>
    obtain ⟨hedged, hne⟩ := ih a.summand
    have htext : sumText s (a :: more) =
        s.toText ++ ((a.before ++ '+' :: a.behind) ++ sumText a.summand more) := by
      rw [sumText_cons, List.append_assoc]
      rfl
    rw [htext]
    exact ⟨s.edged.around hedged s.toText_ne_nil hne _, by simp [s.toText_ne_nil]⟩

-- What a concatenation makes of texts that summands are written as.
theorem eval_ofOperands (ctx : Context) {t : Text} {ss : List Summand} (hss : ∀ s ∈ ss, s.Fits)
    (h : (splitTop '+' t).map Text.trim = ss.map Summand.toText) :
    (Expr.ofOperands t).eval ctx = .text (ss.flatMap (Summand.meaning ctx)) := by
  have hterms : (splitTop '+' t).map (fun p => Term.ofOperand (Text.trim p)) =
      ss.map fun s => Term.ofOperand s.toText := by
    simpa only [List.map_map, Function.comp_def] using congrArg (List.map Term.ofOperand) h
  have heval : ∀ s ∈ ss, ((Term.ofOperand s.toText).eval ctx).toText = s.meaning ctx :=
    fun s hs => congrArg Value.toText (Summand.eval_ofOperand ctx (hss s hs))
  rw [Expr.ofOperands, hterms, Expr.eval, List.flatMap_map, List.flatMap_def,
    List.map_congr_left heval, ← List.flatMap_def]

end Sum

-- A sum comes to the texts of its summands, one after the other. With two or more summands it is a
-- sum in an assignment too.
theorem evalConcat_sumText (ctx : Context) (s : Summand) (more : List Addition) (hs : s.Fits)
    (hmore : ∀ a ∈ more, a.Fits) :
    let sum := s.meaning ctx ++ more.flatMap (·.summand.meaning ctx)
    evalConcat ctx (sumText s more) = sum ∧
      (more ≠ [] → (Expr.ofAssignment (sumText s more)).eval ctx = .text sum) := by
  intro sum
  have hparts : (splitTop '+' (sumText s more)).map Text.trim =
      (s :: more.map (·.summand)).map Summand.toText := by
    have h := splitTop_sumText hs hmore (b := []) rfl
    rw [List.nil_append] at h
    rw [h, List.map_cons, List.map_map]
    rfl
  have hfits : ∀ x ∈ s :: more.map (·.summand), x.Fits := by
    simp only [List.forall_mem_cons, List.forall_mem_map]
    exact ⟨hs, fun a ha => (hmore a ha).summand⟩
  have heval : (Expr.ofOperands (sumText s more)).eval ctx = .text sum := by
    rw [eval_ofOperands ctx hfits hparts, List.flatMap_cons, List.flatMap_map]
  refine ⟨congrArg Value.toText heval, fun hne => ?_⟩
  have hlength : 1 < (splitTop '+' (sumText s more)).length := by
    have h := congrArg List.length hparts
    have hpos := List.length_pos_iff.2 hne
    simp only [List.length_map, List.length_cons] at h
    omega
  rw [Expr.ofAssignment, (edged_sumText s more).1.trim_eq, if_pos hlength, heval]

-- Quoted texts that hold what means something outside of them, and a variable that is not set.
theorem evalConcat_sumText_quoted :
    let ctx : Context := { vars := ⟨[("x".toList, .list [['1'], ['2']])]⟩ }
    let s : Summand := .quoted "a+[ ".toList
    let more : List Addition := [⟨[' '], [], .named ['x']⟩, ⟨[], ['\t', '\n'], .quoted "$(x) ".toList⟩,
      ⟨[], [], .named ['y']⟩]
    s.Fits ∧ (∀ a ∈ more, a.Fits) ∧ sumText s more = "'a+[ ' +$(x)+\t\n'$(x) '+$(y)".toList ∧
      evalConcat ctx (sumText s more) = "a+[ 1,2$(x) $(y)".toList ∧
      (Expr.ofAssignment (sumText s more)).eval ctx = .text "a+[ 1,2$(x) $(y)".toList := by
  intro ctx s more
  have hquote : '\'' ∉ "a+[ ".toList ∧ '\'' ∉ "$(x) ".toList := by decide
  have hmore : ∀ a ∈ more, a.Fits := by
    simp only [more, List.forall_mem_cons, List.not_mem_nil, false_implies, implies_true, and_true]
    exact ⟨⟨by decide, by decide, .of_isNameChar (by decide) (by decide)⟩,
      ⟨by decide, by decide, hquote.2⟩,
      ⟨by decide, by decide, .of_isNameChar (by decide) (by decide)⟩⟩
  obtain ⟨hconcat, hassign⟩ := evalConcat_sumText ctx s more hquote.1 hmore
  rw [hconcat, hassign (by simp [more])]
  exact ⟨hquote.1, hmore, by decide +kernel, by decide +kernel, by decide +kernel⟩

end EdgeIncludes
