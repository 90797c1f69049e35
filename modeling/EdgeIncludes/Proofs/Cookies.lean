import EdgeIncludes.Http.Cookie
import EdgeIncludes.Proofs.Balance
import EdgeIncludes.Proofs.Encoding
import EdgeIncludes.Proofs.Splitting
import Mathlib.Data.List.Basic

namespace EdgeIncludes

namespace Http

open Text (isBlank isBlankText)

-- Text that has no `=`, or nothing but blanks in the place of a name or of a value.
def IsNoCookie (t : Text) : Prop :=
  '=' ∉ t ∨ ∃ n v, '=' ∉ n ∧ t = n ++ '=' :: v ∧ (isBlankText n = true ∨ isBlankText v = true)

-- A name that a cookie can be read back by: no mark of the header and no blank at its ends.
structure CookieName (name : Text) : Prop where
  ne_nil : name ≠ []
  semicolon : ';' ∉ name
  equals : '=' ∉ name
  edged : Edged (isBlank · = false) name

-- A piece of a header: a cookie with blanks around it, with its value as it is written, or text
-- that is no cookie.
inductive CookiePiece where
  | cookie (front name value written back : Text)
  | other (t : Text)

namespace CookiePiece

def toText : CookiePiece → Text
  | cookie front name _ written back => front ++ (name ++ '=' :: (written ++ back))
  | other t => t

def cookie? : CookiePiece → Option (Text × Text)
  | cookie _ name value _ _ => some (name, value)
  | other _ => none

-- Every byte of a value is written in percent encoding.
def Fits : CookiePiece → Prop
  | cookie front name value written back =>
    (isBlankText front = true ∧ isBlankText back = true) ∧ CookieName name ∧
      value ≠ [] ∧ Text.Percent.Spelled (Text.Utf8.encode value) written
  | other t => ';' ∉ t ∧ IsNoCookie t

end CookiePiece

theorem cookie?_append {n v : Text} (hn : '=' ∉ n) :
    cookie? (n ++ '=' :: v) =
      if Text.trim n = [] || Text.trimEnd v = [] then none
      else some (Text.trim n,
        (Text.Utf8.decode? (Text.Percent.decode (Text.trimEnd v))).getD (Text.trimEnd v)) := by
  have hd : '=' ∉ n.dropWhile isBlank := fun h => hn ((List.dropWhile_sublist _).subset h)
  have hcut : Text.cut? ['='] (Text.trim (n ++ '=' :: v)) =
      some (n.dropWhile isBlank, Text.trimEnd v) :=
    Text.cut?_singleton_eq_some_iff.2 ⟨hd, Text.trim_append_cons (by decide) n v⟩
  rw [cookie?, hcut, ← Text.trim_dropWhile n]
  rfl

theorem cookie?_eq_none {t : Text} (h : IsNoCookie t) : cookie? t = none := by
  rcases h with h | ⟨n, v, hn, rfl, hblank⟩
  · have ht : '=' ∉ Text.trim t := fun hm => h ((Text.trim_infix t).subset hm)
    rw [cookie?, Text.cut?_eq_none ht]
    rfl
  · rw [cookie?_append hn, if_pos]
    rcases hblank with hb | hb
    · have hd := Text.dropWhile_isBlank_append hb []
      rw [List.append_nil] at hd
      rw [Text.trim_eq, hd]
      rfl
    · have he := Text.trimEnd_append hb []
      rw [List.nil_append] at he
      rw [he, Bool.or_eq_true]
      exact .inr rfl

theorem cookie?_toText {p : CookiePiece} (h : p.Fits) : cookie? p.toText = p.cookie? := by
  cases p with
  | other t => exact cookie?_eq_none h.2
  | cookie front name value written back =>
    obtain ⟨⟨hfront, hback⟩, hn, hv, hw⟩ := h
    have hfree : '=' ∉ front ++ name := by
      intro hm
      rcases List.mem_append.1 hm with hm | hm
      · exact absurd (Text.isBlankText_iff.1 hfront _ hm) (by decide)
      · exact hn.equals hm
    have hname : Text.trim (front ++ name) = name := by
      have ht := hn.edged.trim_append hn.ne_nil hfront (g := []) rfl
      rwa [List.append_nil] at ht
    have hwritten : Text.trimEnd (written ++ back) = written := by
      rw [Text.trimEnd_append hback]
      exact Text.trimEnd_eq_self fun c hc => Bool.eq_false_iff.2 fun hb => hw.not_mem
        (by rintro rfl; exact absurd hb (by decide)) (Text.Percent.hexValue?_eq_none hb)
        (List.mem_of_mem_getLast? hc)
    have hwne : written ≠ [] := hw.ne_nil (Text.Utf8.encode_ne_nil hv)
    have htext : CookiePiece.toText (.cookie front name value written back) =
        (front ++ name) ++ '=' :: (written ++ back) := (List.append_assoc ..).symm
    rw [htext, cookie?_append hfree, hname, hwritten,
      if_neg (by simp [hn.ne_nil, hwne]), hw.decode_eq, Text.Utf8.decode?_encode]
    rfl

-- No piece is cut in two.
theorem semicolon_not_mem {p : CookiePiece} (h : p.Fits) : ';' ∉ p.toText := by
  cases p with
  | other t => exact h.1
  | cookie front name value written back =>
    obtain ⟨⟨hfront, hback⟩, hn, -, hw⟩ := h
    have hblank : ∀ {t : Text}, isBlankText t = true → ';' ∉ t :=
      fun ht hm => absurd (Text.isBlankText_iff.1 ht _ hm) (by decide)
    have hwritten : ';' ∉ written := hw.not_mem (by decide) (by decide)
    simp [CookiePiece.toText, hblank hfront, hn.semicolon, hwritten, hblank hback]

-- So a header is cut into its pieces.
theorem splitOn_join_toText {p : CookiePiece} {ps : List CookiePiece}
    (h : ∀ q ∈ p :: ps, q.Fits) :
    Text.splitOn [';'] (Text.join [';'] ((p :: ps).map CookiePiece.toText)) =
      (p :: ps).map CookiePiece.toText := by
  have hwhole : ∀ t ∈ (p :: ps).map CookiePiece.toText, Text.splitOn [';'] t = [t] := by
    intro t ht
    obtain ⟨q, hq, rfl⟩ := List.mem_map.1 ht
    exact Text.splitOn_eq_singleton (semicolon_not_mem (h q hq))
  rw [Text.splitOn_join (by simp)]
  exact (List.flatMap_congr hwhole).trans (List.flatMap_singleton' _)

theorem filterMap_cookie? {ps : List CookiePiece} (h : ∀ p ∈ ps, p.Fits) :
    (ps.map CookiePiece.toText).filterMap cookie? = ps.filterMap CookiePiece.cookie? := by
  rw [List.filterMap_map]
  exact List.filterMap_congr fun p hp => cookie?_toText (h p hp)

-- A header whose pieces are cookies in percent encoding and texts that are none is read as the
-- cookies, in order, each as often as it stands there.
theorem cookies_join (ps : List CookiePiece) (h : ∀ p ∈ ps, p.Fits) :
    cookies (Text.join [';'] (ps.map CookiePiece.toText)) = ps.filterMap CookiePiece.cookie? := by
  cases ps with
  | nil =>
    have hnone : cookie? [] = none := cookie?_eq_none (.inl List.not_mem_nil)
    rw [cookies, List.map_nil, Text.join, Text.splitOn_eq_singleton List.not_mem_nil]
    simp [hnone]
  | cons p ps => rw [cookies, splitOn_join_toText h, filterMap_cookie? h]

-- Two cookies of one name, with marks and a longer character in their values, among pieces that
-- have no `=`, no name or no value.
theorem cookies_join_among_others :
    let ps : List CookiePiece := [.cookie [' '] ['a'] ";=".toList "%3B%3d".toList [],
      .other "broken".toList, .other " = x".toList,
      .cookie [] ['a'] "é%".toList "%C3%A9%25".toList ['\t'], .other "k= ".toList]
    (∀ p ∈ ps, p.Fits) ∧
      cookies " a=%3B%3d;broken; = x;a=%C3%A9%25\t;k= ".toList =
        [(['a'], ";=".toList), (['a'], "é%".toList)] := by
  intro ps
  have hname : CookieName ['a'] :=
    ⟨by decide, by decide, by decide, .of_forall (List.forall_mem_singleton.2 (by decide))⟩
  have hfits : ∀ p ∈ ps, p.Fits := by
    simp only [ps, List.forall_mem_cons, List.not_mem_nil, false_implies, implies_true, and_true]
    refine ⟨⟨by decide, hname, by decide, ?_⟩,
      ⟨by decide, .inl (by decide)⟩,
      ⟨by decide, .inr ⟨[' '], " x".toList, by decide, by decide, by decide⟩⟩,
      ⟨by decide, hname, by decide, ?_⟩,
      ⟨by decide, .inr ⟨['k'], [' '], by decide, by decide, by decide⟩⟩⟩
    · exact .cons (by decide) (by decide) (.cons (by decide) (by decide) .nil)
    · exact Text.Percent.spelled_encodeByte (Text.Utf8.encode "é%".toList)
  exact ⟨hfits, cookies_join ps hfits⟩

end Http
end EdgeIncludes
