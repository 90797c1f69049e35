import EdgeIncludes.Proofs.Splitting
import EdgeIncludes.Site.Origin

namespace EdgeIncludes
namespace Site

namespace Component

variable {piece : Text} {c : Component}

theorem ofPiece?_parent : ofPiece? Site.parent = some parent := by decide

theorem isName_of_ofPiece? (h : ofPiece? piece = some c) (hp : piece ≠ Site.parent) :
    c.isName = true := by
  rw [ofPiece?, if_neg hp] at h
  split at h
  · cases h
  · cases h
    rfl

-- Where a way leads with one more component, by the text alone. A parent takes the name back that
-- it stands behind; there is none above the root.
def enter (way : List Component) : Component → List Component
  | here => way
  | parent =>
    match way.getLast? with
    | some (name _) => way.dropLast
    | some root => way
    | _ => way ++ [parent]
  | c => way ++ [c]

theorem enter_of_isName (way : List Component) (h : c.isName = true) :
    enter way c = way ++ [c] := by
  cases c with
  | name t => rfl
  | _ => cases h

theorem foldl_enter {cs : List Component} (h : cs.all isName = true) (way : List Component) :
    cs.foldl enter way = way ++ cs := by
  induction cs generalizing way with
  | nil => exact (List.append_nil way).symm
  | cons c cs ih =>
    obtain ⟨hc, hcs⟩ := (Bool.and_eq_true ..).mp h
    rw [List.foldl_cons, enter_of_isName way hc, ih hcs, List.append_assoc, List.singleton_append]

end Component

section Components

variable {base path rel : Text}

theorem pieces_nil : pieces [] = [[]] := Text.splitOn_eq_singleton List.not_mem_nil

theorem pieces_append_slash (a b : Text) : pieces (a ++ '/' :: b) = pieces a ++ pieces b :=
  Text.splitOn_append a b

theorem steps_nil : steps [] = [] := by
  rw [steps, pieces_nil]
  rfl

theorem steps_append_slash (a b : Text) : steps (a ++ '/' :: b) = steps a ++ steps b := by
  rw [steps, pieces_append_slash, List.filterMap_append, steps, steps]

theorem start_eq_nil_iff :
    start path = [] ↔ isAbsolute path = false ∧ (pieces path).head? ≠ some here := by
  rw [start]
  split
  · simp_all
  · split <;> simp_all

theorem start_append_slash (hne : base ≠ []) (b : Text) :
    start (base ++ '/' :: b) = start base := by
  obtain ⟨c, a, rfl⟩ := List.exists_cons_of_ne_nil hne
  have habs : isAbsolute (c :: a ++ '/' :: b) = isAbsolute (c :: a) := rfl
  have hhead : (pieces (c :: a ++ '/' :: b)).head? = (pieces (c :: a)).head? := by
    rw [pieces_append_slash]
    exact List.head?_append_of_ne_nil _ (Text.splitOn_ne_nil _ _)
  rw [start, start, habs, hhead]

theorem components_nil : components [] = [] := by
  rw [components, steps_nil, List.append_nil, start_eq_nil_iff, pieces_nil]
  decide

theorem components_slash (hne : base ≠ []) : components (base ++ ['/']) = components base := by
  rw [components, start_append_slash hne, steps_append_slash, steps_nil, List.append_nil,
    components]

-- What stands behind a slash is added, and nothing before it changes.
theorem components_append_slash (a b : Text) :
    components (a ++ '/' :: b) = components (a ++ ['/']) ++ steps b := by
  have hstart : start (a ++ '/' :: b) = start (a ++ ['/']) := by
    by_cases ha : a = []
    · subst ha
      rfl
    · rw [start_append_slash ha, start_append_slash ha]
  rw [components, components, hstart, steps_append_slash, steps_append_slash, steps_nil,
    List.append_nil, List.append_assoc]

-- The components of a path are added to those of the one that it is put behind.
theorem components_join (h : start rel = []) (base : Text) :
    components (join base rel) = components base ++ components rel := by
  have hrel : components rel = steps rel := by rw [components, h, List.nil_append]
  rw [join, (start_eq_nil_iff.1 h).1, hrel, if_neg Bool.false_ne_true]
  split
  · rename_i hbase
    rw [Bool.or_eq_true, decide_eq_true_eq, decide_eq_true_eq] at hbase
    rcases hbase with rfl | hslash
    · rw [components_nil, List.nil_append, List.nil_append, hrel]
    · obtain ⟨a, rfl⟩ := List.getLast?_eq_some_iff.1 hslash
      rw [List.append_assoc, List.singleton_append, components_append_slash]
  · rename_i hbase
    have hne : base ≠ [] := by
      rintro rfl
      exact hbase rfl
    rw [components_append_slash, components_slash hne]

theorem all_isName_start : (start path).all Component.isName = true ↔ start path = [] := by
  rw [start]
  split
  · simp [Component.isName]
  · split <;> simp [Component.isName]

theorem all_isName_steps :
    (steps path).all Component.isName = true ↔ parent ∉ pieces path := by
  rw [steps, List.all_eq_true]
  constructor
  · intro h hp
    cases h .parent (List.mem_filterMap.2 ⟨parent, hp, Component.ofPiece?_parent⟩)
  · intro h c hc
    obtain ⟨p, hp, hpc⟩ := List.mem_filterMap.1 hc
    exact Component.isName_of_ofPiece? hpc fun he => h (he ▸ hp)

theorem all_isName_iff :
    (components path).all Component.isName = true ↔ start path = [] ∧ parent ∉ pieces path := by
  rw [components, List.all_append, Bool.and_eq_true, all_isName_start, all_isName_steps]

end Components

-- The way that a path leads by its text alone.
def normalize (path : Text) : List Component := (components path).foldl Component.enter []

-- From the root only names are entered on the way to the file.
def IsBelow (root file : Text) : Prop :=
  ∃ way : List Component, way.all Component.isName = true ∧ normalize file = normalize root ++ way

section Resolve

variable {root path rel file : Text}

theorem isAbsolute_relative (path : Text) : isAbsolute (relative path) = false := by
  refine decide_eq_false fun h => ?_
  have hslash := List.head?_dropWhile_not (· = '/') path
  rw [← relative, h] at hslash
  simp at hslash

theorem isBelow_join (h : (components rel).all Component.isName = true) (root : Text) :
    IsBelow root (join root rel) := by
  refine ⟨components rel, h, ?_⟩
  rw [normalize, components_join (all_isName_iff.1 h).1, List.foldl_append,
    Component.foldl_enter h, normalize]

theorem resolve?_eq_some_iff :
    resolve? root path = some file ↔
      (components (relative path)).all Component.isName = true ∧
        file = join root (relative path) := by
  rw [resolve?]
  split
  · rename_i h
    rw [Option.some.injEq, and_iff_right h, eq_comm]
  · rename_i h
    simp [h]

theorem resolve?_eq_none_iff :
    resolve? root path = none ↔
      parent ∈ pieces (relative path) ∨ (pieces (relative path)).head? = some here := by
  have hnames : ¬(components (relative path)).all Component.isName = true ↔
      parent ∈ pieces (relative path) ∨ (pieces (relative path)).head? = some here := by
    rw [all_isName_iff, start_eq_nil_iff, and_iff_right (isAbsolute_relative path),
      Classical.not_and_iff_not_or_not, not_not, not_not, or_comm]
  rw [← hnames, resolve?]
  split <;> simp_all

theorem outcome_congr {read read' : Text → Reading}
    (h : ∀ file, IsBelow root file → read file = read' file) :
    outcome root read = outcome root read' := by
  funext r
  rw [outcome, outcome]
  cases hr : resolve? root r.uri.path with
  | none => rfl
  | some file =>
    obtain ⟨hnames, rfl⟩ := resolve?_eq_some_iff.1 hr
    exact congrArg (respond _) (h _ (isBelow_join hnames root))

theorem page_congr {read read' : Text → Reading}
    (h : ∀ file, IsBelow root file → read file = read' file) (path : Text) :
    page root read path = page root read' path := by
  rw [page, page, backend, backend, outcome_congr h]

-- The root contains all that is asked for. A path is refused if it has a parent anywhere or a
-- single dot in front; else it stands behind the root and leads down. So two sites that differ only
-- in what is not below their root give the same pages, whatever their files include.
theorem root_contains (root : Text) :
    (∀ path,
      (resolve? root path = none ↔
        parent ∈ pieces (relative path) ∨ (pieces (relative path)).head? = some here) ∧
      ∀ file, resolve? root path = some file →
        file = join root (relative path) ∧ isAbsolute (relative path) = false ∧
          parent ∉ pieces (relative path) ∧ IsBelow root file) ∧
      ∀ read read' : Text → Reading, (∀ file, IsBelow root file → read file = read' file) →
        ∀ path, page root read path = page root read' path := by
  refine ⟨fun path => ⟨resolve?_eq_none_iff, fun file h => ?_⟩, fun _ _ => page_congr⟩
  obtain ⟨hnames, rfl⟩ := resolve?_eq_some_iff.1 h
  exact ⟨rfl, isAbsolute_relative path, (all_isName_iff.1 hnames).2, isBelow_join hnames root⟩

-- A path of dots of all kinds, under a root that starts with a parent itself, and a path that leads
-- out of it.
theorem root_contains_among_dots :
    let root := "../site/".toList
    let path := "//a//./.../b/.".toList
    let file := "../site/a//./.../b/.".toList
    let secret := "../secret".toList
    let empty := fun _ : Text => Reading.missing
    let other := fun f => if f = secret then Reading.found "x".toList else .missing
    (∀ f, IsBelow root f → empty f = other f) ∧
      resolve? root path = some file ∧ IsBelow root file ∧
      resolve? root "/a/../../secret".toList = none ∧
      page root empty path = page root other path := by
  intro root path file secret empty other
  have hsecret : ¬IsBelow root secret := by
    rintro ⟨way, -, hway⟩
    have hroot : normalize root = [.parent, .name "site".toList] := by decide +kernel
    have hout : normalize secret = [.parent, .name "secret".toList] := by decide +kernel
    rw [hroot, hout] at hway
    cases hway
  have hsame : ∀ f, IsBelow root f → empty f = other f := fun f hf =>
    (if_neg fun he : f = secret => hsecret (he ▸ hf)).symm
  have hfile : resolve? root path = some file := by decide +kernel
  obtain ⟨hpaths, hpages⟩ := root_contains root
  have hout : resolve? root "/a/../../secret".toList = none :=
    (hpaths _).1.2 (.inl (by decide +kernel))
  exact ⟨hsame, hfile, ((hpaths path).2 file hfile).2.2.2, hout, hpages empty other hsame path⟩

end Resolve

end Site
end EdgeIncludes
