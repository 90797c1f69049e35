import EdgeIncludes.Inbound
import EdgeIncludes.Proofs.Search

namespace EdgeIncludes

section LastOf

variable {κ : Type} [DecidableEq κ]

-- The value of the last pair with a name.
def lastOf (es : List (κ × Text)) (name : κ) : Option Text :=
  (es.filter (·.1 = name)).getLast?.map (·.2)

variable {es fs : List (κ × Text)} {name : κ}

theorem lastOf_append : lastOf (es ++ fs) name = (lastOf fs name).or (lastOf es name) := by
  rw [lastOf, List.filter_append, List.getLast?_append, lastOf, lastOf]
  cases (fs.filter (·.1 = name)).getLast? <;> rfl

@[simp] theorem lastOf_nil : lastOf [] name = none := rfl

theorem lastOf_cons (e : κ × Text) (es : List (κ × Text)) :
    lastOf (e :: es) name = (lastOf es name).or (if e.1 = name then some e.2 else none) := by
  have hcons : e :: es = [e] ++ es := rfl
  rw [hcons, lastOf_append]
  by_cases he : e.1 = name <;> simp [lastOf, he]

theorem lastOf_eq_none_iff : lastOf es name = none ↔ ∀ e ∈ es, e.1 ≠ name := by
  simp only [lastOf, Option.map_eq_none_iff, List.getLast?_eq_none_iff, List.filter_eq_nil_iff,
    decide_eq_true_eq, ne_eq]

-- Names that are made from keys are told apart by the keys.
theorem lastOf_map_of_injective {ι : Type} [DecidableEq ι] {f : ι → κ}
    (hf : Function.Injective f) (es : List (ι × Text)) (k : ι) :
    lastOf (es.map fun e => (f e.1, e.2)) (f k) = lastOf es k := by
  have hkey : (fun e : κ × Text => decide (e.1 = f k)) ∘
      (fun e : ι × Text => (f e.1, e.2)) = fun e => decide (e.1 = k) := by
    funext e
    simp [hf.eq_iff]
  rw [lastOf, List.filter_map, hkey, List.getLast?_map, Option.map_map, lastOf]
  rfl

end LastOf

namespace Context

-- Of several values for one name the last one stays.
theorem get?_setAll_text (ctx : Context) (es : List (Text × Text)) (name : Text) :
    (ctx.setAll (es.map fun e => (e.1, .text e.2))).get? name =
      ((lastOf es name).map .text).or (ctx.get? name) := by
  induction es generalizing ctx with
  | nil => rfl
  | cons e es ih =>
    have hset : ctx.setAll ((e :: es).map fun e => (e.1, .text e.2)) =
        (ctx.set e.1 (.text e.2)).setAll (es.map fun e => (e.1, .text e.2)) := rfl
    rw [hset, ih, get?_set, lastOf_cons]
    by_cases he : e.1 = name <;> cases lastOf es name <;> simp [he]

end Context

-- What a variable of the request tells.
inductive Seeded where
  | path
  | host
  | agent
  | languages
  | query
  | parameter (key : Text)
  | cookie (name : Text)
  | region
  | language
  | country
deriving DecidableEq

namespace Inbound

-- How the names of the variables for parameters begin.
def parameterPrefix : Text := "QUERY_STRING_".toList

end Inbound

namespace Seeded

-- How the names of the variables for cookies begin.
def cookiePrefix : Text := "HTTP_COOKIE_".toList

def name : Seeded → Text
  | path => "REQUEST_PATH".toList
  | host => "HTTP_HOST".toList
  | agent => "HTTP_USER_AGENT".toList
  | languages => "HTTP_ACCEPT_LANGUAGE".toList
  | query => "QUERY_STRING".toList
  | parameter key => Inbound.parameterPrefix ++ key
  | cookie n => cookiePrefix ++ n
  | region => "RU".toList
  | language => "LC".toList
  | country => "GEO_country_code".toList

-- What the request says. Of parameters and of cookies with one name the last one counts.
def value? (i : Inbound) : Seeded → Option Text
  | path => some i.url.pathOf
  | host => some (((i.header? "host".toList).or i.url.hostText?).getD [])
  | agent => some ((i.header? "user-agent".toList).getD [])
  | languages => some ((i.header? "accept-language".toList).getD [])
  | query => some (i.url.query?.getD [])
  | parameter key => lastOf i.url.queryPairs key
  | cookie n => lastOf ((i.request.headers.texts "cookie".toList).flatMap Http.cookies) n
  | region => (locale? i.url.pathOf).map (·.1)
  | language => (locale? i.url.pathOf).map (·.2)
  | country => some Inbound.countryCode

-- The variable with a name. What a client chooses stands behind one of two prefixes, which no other
-- name has.
def ofName? (t : Text) : Option Seeded :=
  ((Text.after? Inbound.parameterPrefix t).map parameter).or
    (((Text.after? cookiePrefix t).map cookie).or
      ([path, host, agent, languages, query, region, language, country].find? (·.name = t)))

theorem ofName?_name (s : Seeded) : ofName? s.name = some s := by
  cases s with
  | parameter key =>
    have hname : name (.parameter key) = Inbound.parameterPrefix ++ key := rfl
    rw [ofName?, hname, Text.after?_append, Option.map_some, Option.some_or]
  | cookie n =>
    have hp : Inbound.parameterPrefix = 'Q' :: "UERY_STRING_".toList := by decide
    have hc : cookiePrefix = 'H' :: "TTP_COOKIE_".toList := by decide
    have hnone : Text.after? Inbound.parameterPrefix (cookiePrefix ++ n) = none := by
      rw [hp, hc]
      exact if_neg (by decide)
    have hname : name (.cookie n) = cookiePrefix ++ n := rfl
    rw [ofName?, hname, hnone, Text.after?_append, Option.map_none, Option.none_or,
      Option.map_some, Option.some_or]
  | _ => decide

theorem name_injective : Function.Injective name := by
  intro s t h
  have hs := ofName?_name s
  rw [h, ofName?_name] at hs
  exact (Option.some.inj hs).symm

end Seeded

namespace Inbound

-- The variables of the request in the order in which they are set, by what they tell.
def seeds (i : Inbound) : List (Seeded × Text) :=
  let header := fun name : String => (i.header? name.toList).getD []
  [(.path, i.url.pathOf), (.host, i.host), (.agent, header "user-agent"),
    (.languages, header "accept-language"), (.query, i.url.query?.getD [])]
    ++ i.url.queryPairs.map (fun p => (.parameter p.1, p.2))
    ++ i.cookies.map (fun p => (.cookie p.1, p.2))
    ++ (match locale? i.url.pathOf with
      | some (region, language) => [(.region, region), (.language, language)]
      | none => [])
    ++ [(.country, countryCode)]

theorem bindings_eq (i : Inbound) : i.bindings = i.seeds.map fun e => (e.1.name, e.2) := by
  rw [bindings, seeds]
  cases locale? i.url.pathOf with
  | none =>
    simp only [List.map_append, List.map_cons, List.map_nil, List.map_map]
    rfl
  | some l =>
    simp only [List.map_append, List.map_cons, List.map_nil, List.map_map]
    rfl

-- What a client chooses comes under a name of its own kind.
theorem lastOf_seeds (i : Inbound) (s : Seeded) : lastOf i.seeds s = s.value? i := by
  have hparameters : ∀ key, lastOf (i.url.queryPairs.map fun p => (Seeded.parameter p.1, p.2))
      (.parameter key) = lastOf i.url.queryPairs key :=
    lastOf_map_of_injective (fun _ _ => Seeded.parameter.inj) _
  have hcookies : ∀ n, lastOf (i.cookies.map fun p => (Seeded.cookie p.1, p.2)) (.cookie n) =
      lastOf i.cookies n :=
    lastOf_map_of_injective (fun _ _ => Seeded.cookie.inj) _
  have hother : ∀ {f : Text → Seeded} (es : List (Text × Text)), (∀ t, f t ≠ s) →
      lastOf (es.map fun p => (f p.1, p.2)) s = none :=
    fun es hf => lastOf_eq_none_iff.2 (List.forall_mem_map.2 fun e _ => hf e.1)
  rw [seeds]
  simp only [lastOf_append]
  cases hl : locale? i.url.pathOf <;> cases s <;>
    simp [Seeded.value?, lastOf_cons, host, hl, hparameters, hcookies, hother] <;> rfl

theorem get?_seed (i : Inbound) (name : Text) :
    i.seed.get? name = (lastOf i.bindings name).map .text := by
  rw [seed, Context.get?_setAll_text]
  exact Option.or_none

-- Every variable has the value of its own source, whatever the others are named.
theorem get?_seed_name (i : Inbound) (s : Seeded) :
    i.seed.get? s.name = (s.value? i).map .text := by
  rw [get?_seed, bindings_eq, lastOf_map_of_injective Seeded.name_injective, lastOf_seeds]

-- No other variable of the request can be taken for a parameter, whatever a cookie is named.
theorem get?_seed_parameter (i : Inbound) (key : Text) :
    i.seed.get? (parameterPrefix ++ key) = (lastOf i.url.queryPairs key).map .text :=
  i.get?_seed_name (.parameter key)

-- There are no variables with other names.
theorem exists_name_of_get?_seed {i : Inbound} {name : Text} (h : i.seed.get? name ≠ none) :
    ∃ s : Seeded, s.name = name := by
  by_contra hs
  refine h ?_
  rw [get?_seed, bindings_eq, lastOf_eq_none_iff.2, Option.map_none]
  exact List.forall_mem_map.2 fun e _ he => hs ⟨e.1, he⟩

end Inbound

-- The path starts with a segment of two small letters for the region, and one for the language.
def InLocale (path region language : Text) : Prop :=
  ∃ a b c d rest, (∀ x ∈ [a, b, c, d], 'a' ≤ x ∧ x ≤ 'z') ∧
    path = '/' :: a :: b :: '/' :: c :: d :: rest ∧ (rest = [] ∨ rest.head? = some '/') ∧
    region = [a, b] ∧ language = [c, d]

theorem letterPair?_eq_some_iff {t pair r : Text} :
    letterPair? t = some (pair, r) ↔ ∃ a b, (∀ x ∈ [a, b], 'a' ≤ x ∧ x ≤ 'z') ∧
      t = '/' :: a :: b :: r ∧ (r = [] ∨ r.head? = some '/') ∧ pair = [a, b] := by
  constructor
  · intro h
    unfold letterPair? at h
    split at h
    · rename_i a b r'
      simp only [Bool.and_eq_true, Bool.or_eq_true, decide_eq_true_eq] at h
      split at h
      · rename_i hsmall
        cases h
        exact ⟨a, b, by simpa using hsmall.1, rfl, hsmall.2, rfl⟩
      · cases h
    · cases h
  · rintro ⟨a, b, hsmall, rfl, hr, rfl⟩
    simpa [letterPair?, hr, and_assoc] using hsmall

theorem locale?_eq_some_iff {path region language : Text} :
    locale? path = some (region, language) ↔ InLocale path region language := by
  simp only [locale?, bind, Option.bind_eq_some_iff, pure, Option.some.injEq, Prod.exists,
    letterPair?_eq_some_iff]
  constructor
  · rintro ⟨region, _, ⟨a, b, hab, rfl, -, rfl⟩, language, rest, ⟨c, d, hcd, rfl, hr, rfl⟩, he⟩
    obtain ⟨rfl, rfl⟩ := Prod.mk.inj he
    exact ⟨a, b, c, d, rest, by simpa [and_assoc] using And.intro hab hcd, rfl, hr, rfl, rfl⟩
  · rintro ⟨a, b, c, d, rest, hsmall, rfl, hr, rfl, rfl⟩
    simp only [List.forall_mem_cons, List.not_mem_nil, false_implies, implies_true, and_true]
      at hsmall
    exact ⟨_, _, ⟨a, b, by simp [hsmall], rfl, .inr rfl, rfl⟩, _, rest,
      ⟨c, d, by simp [hsmall], rfl, hr, rfl⟩, rfl⟩

end EdgeIncludes
