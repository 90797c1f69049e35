import EdgeIncludes.Fragment.Include
import EdgeIncludes.Proofs.Rendering

namespace EdgeIncludes

-- What an element asks for. The directive that keeps it gives this fetch and no other, whatever the
-- context, so its address is that of the `src` of the element.
structure AsksFor (c : Config) (i : Inbound) (t : Tag) (f : Fragment) : Prop where
  name_eq : t.name = Fragment.includeName
  directive_eq (taken : Bool) (ctx : Context) :
    ∃ log, Fragment.directive c i t taken ctx = ⟨ctx, .ok ⟨.keep, taken⟩, log, [f]⟩
  url_eq : ∃ src, t.attribute? "src".toList = some src ∧
    Fragment.resolve i.url (Fragment.directHost? c i)
      (Fragment.substituteInbound i.url (Fragment.unescape c.escaped src)) = .ok f.url
  request_eq : ∃ log, Fragment.build c (i.setting? c.headersVariable) f.url = .ok (f.request, log)

namespace Fragment

theorem require_eq_ok {t : Tag} {name v : Text} (h : t.require name = .ok v) :
    t.attribute? name = some v := by
  unfold Tag.require at h
  split at h
  · rename_i w hw
    rw [hw, Except.ok.inj h]
  · cases h

-- A fetch that is asked for has the address that the source resolves to, and the request for it.
theorem ofSource_eq_ok {c : Config} {i : Inbound} {src : Text} {f : Fragment} {log : Log}
    (h : ofSource c i src = .ok (f, log)) :
    resolve i.url (directHost? c i) (substituteInbound i.url (unescape c.escaped src)) = .ok f.url ∧
      build c (i.setting? c.headersVariable) f.url = .ok (f.request, log) := by
  unfold ofSource at h
  rcases hu : resolve i.url (directHost? c i)
    (substituteInbound i.url (unescape c.escaped src)) with e | u
  · simp [hu, bind, Except.bind] at h
  · rcases hb : build c (i.setting? c.headersVariable) u with e | ⟨r, l⟩
    · simp [hu, hb, bind, Except.bind] at h
    · simp only [hu, hb, bind, Except.bind, pure, Except.pure, Except.ok.injEq,
        Prod.mk.injEq] at h
      obtain ⟨rfl, rfl⟩ := h
      exact ⟨rfl, hb⟩

-- Every dispatch of an include asks for one fetch and keeps the element, or does neither.
theorem pairs_directive (c : Config) (i : Inbound) (t : Tag) (taken : Bool) (ctx : Context)
    (ht : t.name = includeName) : (directive c i t taken ctx).Pairs (AsksFor c i) t := by
  rcases ha : (t.require "src".toList).bind (ofSource c i) with e | ⟨f, log⟩
  · simp only [directive, ha]
    rfl
  · have hd : ∀ taken ctx, directive c i t taken ctx = ⟨ctx, .ok ⟨.keep, taken⟩, log, [f]⟩ := by
      intro taken ctx
      simp only [directive, ha]
    rcases hr : t.require "src".toList with e | src
    · rw [hr] at ha
      cases ha
    · rw [hr] at ha
      rw [hd]
      obtain ⟨hu, hb⟩ := ofSource_eq_ok ha
      exact ⟨f, rfl, ht, fun taken ctx => ⟨log, hd taken ctx⟩, ⟨src, require_eq_ok hr, hu⟩, log, hb⟩

end Fragment

-- The standard directives and that of includes together.
theorem pairs_directives (c : Config) (i : Inbound) :
    ∀ e ∈ (Fragment.directives c i).entries, ∀ t taken ctx, t.name = e.1 →
      (e.2 t taken ctx).Pairs (AsksFor c i) t := by
  intro e he t taken ctx ht
  rcases List.mem_cons.1 he with rfl | he
  · exact Fragment.pairs_directive c i t taken ctx ht
  · exact Standard.pairs_directives _ e he t taken ctx

-- The fetches of a scan go with its placeholders, one by one and in order.
theorem scan_paired (c : Config) (i : Inbound) (t : Text) :
    List.Forall₂ (AsksFor c i) (Segment.placeholders (scan c i t).segments)
      (scan c i t).fetches := by
  have h := (gathers_paired (pairs_directives c i)).renderAll .verbatim ⟨i.seed, 0⟩ false
    (Markup.read c.tagNamespace t)
  rw [scan, renderDocument, Segment.placeholders_merge]
  exact h

theorem exists_asksFor {c : Config} {i : Inbound} {t : Text} {f : Fragment}
    (h : f ∈ (scan c i t).fetches) : ∃ u, AsksFor c i u f := by
  obtain ⟨n, hn, rfl⟩ := List.getElem_of_mem h
  have hp := List.forall₂_iff_get.1 (scan_paired c i t)
  exact ⟨_, hp.2 n (hp.1 ▸ hn) hn⟩

end EdgeIncludes
