import EdgeIncludes.Proofs.Cookies
import EdgeIncludes.Proofs.Seed

namespace EdgeIncludes

section LastReads

-- Of the pieces that can be read under a name the last one says the value.
def LastReads (Reads : Text → Text → Text → Prop) (pieces : List Text) (name value : Text) : Prop :=
  ∃ before piece after, pieces = before ++ piece :: after ∧ Reads piece name value ∧
    ∀ later ∈ after, ∀ v, ¬Reads later name v

variable {Reads : Text → Text → Text → Prop} {p : Text} {ps : List Text} {name value : Text}

theorem lastReads_cons :
    LastReads Reads (p :: ps) name value ↔ LastReads Reads ps name value ∨
      (Reads p name value ∧ ∀ later ∈ ps, ∀ v, ¬Reads later name v) := by
  constructor
  · rintro ⟨before, piece, after, h, hr, ha⟩
    cases before with
    | nil =>
      obtain ⟨rfl, rfl⟩ := List.cons.inj h
      exact .inr ⟨hr, ha⟩
    | cons _ before =>
      obtain ⟨rfl, rfl⟩ := List.cons.inj h
      exact .inl ⟨before, piece, after, rfl, hr, ha⟩
  · rintro (⟨before, piece, after, rfl, hr, ha⟩ | ⟨hr, ha⟩)
    · exact ⟨p :: before, piece, after, rfl, hr, ha⟩
    · exact ⟨[], p, ps, rfl, hr, ha⟩

variable {read? : Text → Option (Text × Text)}

theorem lastOf_filterMap_eq_none_iff (h : ∀ t n v, Reads t n v ↔ read? t = some (n, v)) :
    lastOf (ps.filterMap read?) name = none ↔ ∀ t ∈ ps, ∀ v, ¬Reads t name v := by
  rw [lastOf_eq_none_iff]
  constructor
  · intro hn t ht v hr
    exact hn (name, v) (List.mem_filterMap.2 ⟨t, ht, (h t name v).1 hr⟩) rfl
  · rintro hn e he rfl
    obtain ⟨t, ht, hr⟩ := List.mem_filterMap.1 he
    exact hn t ht e.2 ((h t e.1 e.2).2 hr)

-- It is the last of what is read with that name.
theorem lastReads_iff (h : ∀ t n v, Reads t n v ↔ read? t = some (n, v)) :
    LastReads Reads ps name value ↔ lastOf (ps.filterMap read?) name = some value := by
  induction ps with
  | nil =>
    refine iff_of_false ?_ nofun
    rintro ⟨before, piece, after, he, -⟩
    simp at he
  | cons p ps ih =>
    rw [lastReads_cons, ih, ← lastOf_filterMap_eq_none_iff h, h]
    cases hp : read? p with
    | none => simp [List.filterMap_cons_none hp]
    | some e =>
      obtain ⟨n, v⟩ := e
      rw [List.filterMap_cons_some hp, lastOf_cons]
      cases lastOf (ps.filterMap read?) name <;> simp

end LastReads

namespace Http

open Text (isBlank isBlankText)

-- What a value is read as: the text whose bytes it stands for, or itself if it stands for the bytes
-- of no text.
def DecodesTo (written value : Text) : Prop :=
  ∃ bytes, Text.Percent.StandsFor written bytes ∧
    (bytes = Text.Utf8.encode value ∨ (value = written ∧ ∀ t, bytes ≠ Text.Utf8.encode t))

-- A cookie as it stands in a header. Blanks may stand around the name and behind the value, but
-- those in front of the value are part of it.
inductive ReadsCookie : Text → Text → Text → Prop where
  | intro {front name gap written back value : Text} :
    isBlankText front = true → isBlankText gap = true → isBlankText back = true →
    name ≠ [] → '=' ∉ name → Edged (isBlank · = false) name →
    written ≠ [] → (∀ c ∈ written.getLast?, isBlank c = false) → DecodesTo written value →
    ReadsCookie (front ++ (name ++ (gap ++ '=' :: (written ++ back)))) name value

theorem decodesTo_iff {written value : Text} :
    DecodesTo written value ↔
      (Text.Utf8.decode? (Text.Percent.decode written)).getD written = value := by
  simp only [DecodesTo, Text.Percent.standsFor_iff, exists_eq_left']
  cases h : Text.Utf8.decode? (Text.Percent.decode written) with
  | none =>
    have hn : ∀ t, Text.Percent.decode written ≠ Text.Utf8.encode t := fun t ht => by
      rw [Text.Utf8.decode?_eq_some_iff.2 ht] at h
      cases h
    simp [hn, eq_comm]
  | some t =>
    rw [Text.Utf8.decode?_eq_some_iff] at h
    rw [h, Option.getD_some]
    constructor
    · rintro (he | ⟨-, hn⟩)
      · exact Text.Utf8.encode_injective he
      · exact absurd rfl (hn t)
    · rintro rfl
      exact .inl rfl

theorem readsCookie_iff {t name value : Text} :
    ReadsCookie t name value ↔ cookie? t = some (name, value) := by
  constructor
  · rintro ⟨hfront, hgap, hback, hn, he, hedged, hw, hlast, hd⟩
    rename_i front gap written back
    have hblank : ∀ {g : Text}, isBlankText g = true → '=' ∉ g := fun hg hm =>
      absurd (Text.isBlankText_iff.1 hg _ hm) (by decide)
    have hfree : '=' ∉ front ++ (name ++ gap) := by simp [hblank hfront, hblank hgap, he]
    have htext : front ++ (name ++ (gap ++ '=' :: (written ++ back))) =
        (front ++ (name ++ gap)) ++ '=' :: (written ++ back) := by simp
    rw [htext, cookie?_append hfree, hedged.trim_append hn hfront hgap, Text.trimEnd_append hback,
      Text.trimEnd_eq_self hlast, if_neg (by simp [hn, hw]), decodesTo_iff.1 hd]
  · intro h
    have hm : '=' ∈ t := by
      by_contra hm
      rw [cookie?_eq_none (.inl hm)] at h
      cases h
    obtain ⟨n, v, rfl, hn⟩ := List.eq_append_cons_of_mem hm
    rw [cookie?_append hn] at h
    split at h
    · cases h
    · rename_i hne
      obtain ⟨rfl, hd⟩ := Prod.mk.inj (Option.some.inj h)
      simp only [Bool.or_eq_true, decide_eq_true_eq, not_or] at hne
      obtain ⟨front, gap, hfront, hgap, htext⟩ := Text.exists_trim n
      obtain ⟨back, hback, hv⟩ := Text.exists_trimEnd v
      have hwhole : n ++ '=' :: v =
          front ++ (Text.trim n ++ (gap ++ '=' :: (Text.trimEnd v ++ back))) := by
        rw [← hv, ← List.append_assoc (Text.trim n), ← List.append_assoc front, ← htext]
      rw [hwhole]
      exact .intro hfront hgap hback hne.1 (fun hm => hn ((Text.trim_infix n).subset hm))
        ⟨Text.head?_trim n, Text.getLast?_trimEnd _⟩ hne.2 (Text.getLast?_trimEnd v)
        (decodesTo_iff.2 hd)

end Http

namespace Url

-- A pair of a query as it is written, cut at the first `=`. Without one there is no value.
inductive ReadsPair : Text → Text → Text → Prop where
  | valued {key value : Text} :
    '=' ∉ key → ReadsPair (key ++ '=' :: value) (decodeForm key) (decodeForm value)
  | bare {key : Text} : key ≠ [] → '=' ∉ key → ReadsPair key (decodeForm key) []

-- Text between two ampersands is a pair unless it is empty.
def pair? (t : Text) : Option (Text × Text) := if t = [] then none else some (queryPair t)

theorem decodeForm_nil : decodeForm [] = [] := by
  rw [decodeForm, List.map_nil, Text.Percent.decode, Text.Utf8.decodeLossy, Text.Utf8.scan]
  rfl

theorem queryPair_append {key value : Text} (h : '=' ∉ key) :
    queryPair (key ++ '=' :: value) = (decodeForm key, decodeForm value) := by
  rw [queryPair, Text.cut?_singleton_eq_some_iff.2 ⟨h, rfl⟩]
  rfl

theorem queryPair_eq {key : Text} (h : '=' ∉ key) : queryPair key = (decodeForm key, []) := by
  rw [queryPair, Text.cut?_eq_none h]
  exact congrArg (Prod.mk _) decodeForm_nil

theorem readsPair_iff {t key value : Text} :
    ReadsPair t key value ↔ pair? t = some (key, value) := by
  constructor
  · rintro (h | ⟨hne, h⟩)
    · rw [pair?, if_neg (by simp), queryPair_append h]
    · rw [pair?, if_neg hne, queryPair_eq h]
  · intro h
    rw [pair?] at h
    split at h
    · cases h
    · rename_i hne
      have hp : queryPair t = (key, value) := Option.some.inj h
      by_cases hm : '=' ∈ t
      · obtain ⟨k, v, rfl, hk⟩ := List.eq_append_cons_of_mem hm
        rw [queryPair_append hk] at hp
        cases hp
        exact .valued hk
      · rw [queryPair_eq hm] at hp
        cases hp
        exact .bare hne hm

theorem queryPairs_eq (u : Url) :
    u.queryPairs = (Text.splitOn ['&'] (u.query?.getD [])).filterMap pair? := by
  rw [queryPairs, pairsOf, ← List.filterMap_eq_map, List.filterMap_filter]
  refine List.filterMap_congr fun t _ => ?_
  by_cases ht : t = [] <;> simp [pair?, ht]

end Url

-- What the request says of a variable.
def Seeded.Told (i : Inbound) : Seeded → Text → Prop
  | path, v => v = i.url.pathOf
  | host, v => v = ((i.header? "host".toList).or i.url.hostText?).getD []
  | agent, v => v = (i.header? "user-agent".toList).getD []
  | languages, v => v = (i.header? "accept-language".toList).getD []
  | query, v => v = i.url.query?.getD []
  | parameter key, v =>
    LastReads Url.ReadsPair (Text.splitOn ['&'] (i.url.query?.getD [])) key v
  | cookie name, v =>
    LastReads Http.ReadsCookie
      ((i.request.headers.texts "cookie".toList).flatMap (Text.splitOn [';'])) name v
  | region, v => ∃ language, InLocale i.url.pathOf v language
  | language, v => ∃ region, InLocale i.url.pathOf region v
  | country, v => v = "US".toList

theorem Seeded.told_iff (i : Inbound) (s : Seeded) (v : Text) :
    s.Told i v ↔ s.value? i = some v := by
  cases s with
  | parameter key =>
    have h : Told i (.parameter key) v ↔ _ := lastReads_iff fun _ _ _ => Url.readsPair_iff
    rwa [← Url.queryPairs_eq] at h
  | cookie name =>
    have h : Told i (.cookie name) v ↔ _ := lastReads_iff fun _ _ _ => Http.readsCookie_iff
    rwa [List.filterMap_flatMap] at h
  | region =>
    simp only [Told, value?, Option.map_eq_some_iff, Prod.exists, locale?_eq_some_iff]
    constructor
    · rintro ⟨l, h⟩
      exact ⟨v, l, h, rfl⟩
    · rintro ⟨_, l, h, rfl⟩
      exact ⟨l, h⟩
  | language =>
    simp only [Told, value?, Option.map_eq_some_iff, Prod.exists, locale?_eq_some_iff]
    constructor
    · rintro ⟨r, h⟩
      exact ⟨r, v, h, rfl⟩
    · rintro ⟨r, _, h, rfl⟩
      exact ⟨r, h⟩
  | _ => exact eq_comm.trans Option.some_inj.symm

namespace Inbound

-- Every variable that a document starts with has the value that the request tells, whatever
-- parameters and cookies are named, and it is set only if the request tells one. There are no other
-- variables.
theorem seed_of_sources (i : Inbound) :
    (∀ (s : Seeded) (v : Value), i.seed.get? s.name = some v ↔ ∃ t, v = .text t ∧ s.Told i t) ∧
      ∀ name, i.seed.get? name ≠ none → ∃ s : Seeded, s.name = name := by
  refine ⟨fun s v => ?_, fun name h => exists_name_of_get?_seed h⟩
  rw [get?_seed_name, Option.map_eq_some_iff]
  refine exists_congr fun t => ?_
  rw [s.told_iff, and_comm, eq_comm]

-- A request that tries to set the other variables: its parameters and its cookies have their names.
-- Two headers have a cookie of one name, and one value is not the text of any bytes.
theorem seed_of_forged_names :
    let fields : List (String × String) := [("host", "shop.example"), ("user-agent", "reader/1"),
      ("cookie", "a=1; HTTP_HOST=x;b=%ff"),
      ("cookie", "a = 2%;QUERY_STRING_id=9; broken; c= ;a=%C3%A9\t; GEO_country_code=XX")]
    let i : Inbound := {
      request := ⟨⟨some "http".toList, "a.example".toList, "/de/en/cart".toList, none⟩,
        ⟨fields.map fun e => (e.1.toList, e.2.toList)⟩⟩
      url := ⟨"http".toList, some { host? := some (.domain "a.example".toList) },
        .segments ["de".toList, "en".toList, "cart".toList],
        some "id=1&HTTP_HOST=y&id=a+b%21&&GEO_country_code=XX&flag".toList, none⟩ }
    let values : List (String × String) := [("REQUEST_PATH", "/de/en/cart"),
      ("HTTP_HOST", "shop.example"), ("HTTP_USER_AGENT", "reader/1"), ("HTTP_ACCEPT_LANGUAGE", ""),
      ("QUERY_STRING", "id=1&HTTP_HOST=y&id=a+b%21&&GEO_country_code=XX&flag"),
      ("QUERY_STRING_id", "a b!"), ("QUERY_STRING_HTTP_HOST", "y"),
      ("QUERY_STRING_GEO_country_code", "XX"), ("QUERY_STRING_flag", ""), ("HTTP_COOKIE_a", "é"),
      ("HTTP_COOKIE_HTTP_HOST", "x"), ("HTTP_COOKIE_b", "%ff"),
      ("HTTP_COOKIE_QUERY_STRING_id", "9"), ("HTTP_COOKIE_GEO_country_code", "XX"),
      ("RU", "de"), ("LC", "en"), ("GEO_country_code", "US")]
    let unset := ["QUERY_STRING_", "HTTP_COOKIE_broken", "HTTP_COOKIE_c", "HTTP_COOKIE"]
    (∀ e ∈ values, i.seed.get? e.1.toList = some (.text e.2.toList)) ∧
      (∀ name ∈ unset, i.seed.get? name.toList = none) ∧
      (Seeded.cookie ['a']).Told i ['é'] ∧ (Seeded.parameter "id".toList).Told i "a b!".toList ∧
      ∀ v, ¬(Seeded.cookie ['c']).Told i v := by
  intro fields i values unset
  have hseed : (∀ e ∈ values, i.seed.get? e.1.toList = some (.text e.2.toList)) ∧
      ∀ name ∈ unset, i.seed.get? name.toList = none := by decide +kernel
  have htold : ∀ (s : Seeded) t, s.Told i t ↔ i.seed.get? s.name = some (.text t) := fun s t => by
    rw [(seed_of_sources i).1]
    simp
  refine ⟨hseed.1, hseed.2, (htold _ _).2 ?_, (htold _ _).2 ?_, fun v hv => ?_⟩
  · exact hseed.1 ("HTTP_COOKIE_a", "é") (by simp [values])
  · exact hseed.1 ("QUERY_STRING_id", "a b!") (by simp [values])
  · have hnone : i.seed.get? (Seeded.cookie ['c']).name = none :=
      hseed.2 "HTTP_COOKIE_c" (by simp [unset])
    rw [htold, hnone] at hv
    cases hv

end Inbound
end EdgeIncludes
