import EdgeIncludes.Fragment.Source

namespace EdgeIncludes

namespace Url

-- The port is written out only where it is not the default.
def PlainPort (u : Url) : Prop := ∀ p, u.port? = some p → defaultPort? u.scheme ≠ some p

theorem PlainPort.filter_eq {u : Url} (h : u.PlainPort) :
    (u.port?.filter fun p => defaultPort? u.scheme ≠ some p) = u.port? := by
  cases hp : u.port? with
  | none => rfl
  | some p => simp [h p hp]

-- The host that replaces that of an address, if it can. An empty one is none.
def derivedHost? (special : Bool) (t : Text) : Option (Option Host) :=
  ((hostPart? t).bind (Host.ofText? special)).map fun h => if h = .domain [] then none else some h

variable {u u' : Url}

theorem setPort?_eq_some {port? : Option Nat} (h : u.setPort? port? = some u') :
    u'.scheme = u.scheme ∧
      u'.port? = port?.filter fun p => defaultPort? u.scheme ≠ some p := by
  unfold setPort? at h
  split at h
  · cases h
  · rename_i hn
    obtain rfl := Option.some.inj h
    cases ha : u.authority? with
    | none => simp [host?, ha] at hn
    | some a => simp [mapAuthority, Url.port?, ha]

theorem setScheme?_eq_some {scheme : Text} (h : u.setScheme? scheme = some u') :
    u'.scheme = scheme := by
  unfold setScheme? at h
  repeat' split at h
  case isFalse =>
    rw [← Option.some.inj h]
    cases hp : ({ u with scheme := scheme } : Url).setPort?
        ({ u with scheme := scheme } : Url).port? with
    | none => rfl
    | some v => exact (setPort?_eq_some hp).1
  all_goals cases h

theorem setHost?_eq_some {t : Text} (h : u.setHost? t = some u') :
    u'.scheme = u.scheme ∧ u'.port? = u.port? ∧
      derivedHost? (isSpecial u.scheme) t = some u'.host? := by
  have hport : ∀ host?, (some { u.authority?.getD ⟨[], none, none⟩ with host? } :
      Option Authority).bind (·.port?) = u.port? := by
    intro host?
    cases ha : u.authority? <;> simp [Url.port?, ha]
  simp only [setHost?, Option.bind_eq_bind, Option.pure_def] at h
  cases hp : u.path with
  | rootless => simp [hp] at h
  | segments ss =>
    simp only [hp] at h
    split at h
    · cases h
    · simp only [Option.bind_eq_some_iff] at h
      obtain ⟨p, hp', host, hh, he⟩ := h
      obtain rfl := Option.some.inj he
      refine ⟨rfl, hport _, ?_⟩
      rw [derivedHost?, hp', Option.bind_some, hh]
      rfl

-- The ports that are read.

theorem readPort?_plain {scheme t : Text} {port? : Option Nat}
    (h : readPort? scheme t = some port?) : ∀ p, port? = some p → defaultPort? scheme ≠ some p := by
  simp only [readPort?] at h
  split at h
  · cases h
  · split at h
    · cases h
    · rintro p rfl hd
      have h := Option.some.inj h
      split at h
      · cases h
      · rename_i hn
        rw [Option.some.inj h] at hn
        simp [hd] at hn

theorem readAuthority?_plain {scheme t r : Text} {a : Authority}
    (h : readAuthority? scheme t = some (a, r)) :
    ∀ p, a.port? = some p → defaultPort? scheme ≠ some p := by
  simp only [readAuthority?, Option.bind_eq_bind, Option.pure_def] at h
  split at h
  · cases h
  · split at h
    · split at h
      · cases h
      · obtain ⟨rfl, -⟩ := Prod.mk.inj (Option.some.inj h)
        rintro p ⟨⟩
    · simp only [Option.bind_eq_some_iff] at h
      obtain ⟨host, -, port?, hp, he⟩ := h
      obtain ⟨rfl, -⟩ := Prod.mk.inj (Option.some.inj he)
      exact readPort?_plain hp

theorem plainPort_withTail {t : Text} (h : u.PlainPort) : (withTail u t).PlainPort := h

theorem plainPort_of_port? (h : u.port? = none) : u.PlainPort := by
  intro p hp
  rw [h] at hp
  cases hp

theorem behindSlashes?_plain {scheme t : Text} (h : behindSlashes? scheme t = some u) :
    u.PlainPort := by
  simp only [behindSlashes?, Option.bind_eq_bind, Option.bind_eq_some_iff, Option.pure_def] at h
  obtain ⟨⟨a, r⟩, ha, he⟩ := h
  rw [← Option.some.inj he]
  exact plainPort_withTail (readAuthority?_plain ha)

theorem ofFile?_plain {t : Text} (h : ofFile? none t = some u) : u.PlainPort := by
  refine plainPort_of_port? ?_
  simp only [ofFile?, ofFile?.relativeFile] at h
  have hon : ∀ (host? : Option Host) (t : Text), (behindFileHost host? t).port? = none :=
    fun _ _ => rfl
  split at h
  · split at h
    · split at h
      · obtain rfl := Option.some.inj h
        rfl
      · obtain ⟨host?, -, rfl⟩ := Option.map_eq_some_iff.1 h
        exact hon _ _
    · split at h <;> obtain rfl := Option.some.inj h <;> rfl
  · obtain rfl := Option.some.inj h
    rfl

theorem behindScheme?_plain {scheme t : Text} (h : behindScheme? none scheme t = some u) :
    u.PlainPort := by
  simp only [behindScheme?] at h
  split at h
  · exact ofFile?_plain h
  · split at h
    · exact behindSlashes?_plain h
    · split at h
      · exact behindSlashes?_plain h
      · obtain rfl := Option.some.inj h
        exact plainPort_of_port? rfl
      · obtain rfl := Option.some.inj h
        exact plainPort_of_port? rfl

-- An address that has been read does not write out the default port.
theorem plainPort_ofText? {t : Text} (h : ofText? t = some u) : u.PlainPort := by
  simp only [ofText?, read?] at h
  split at h
  · exact behindScheme?_plain (by assumption)
  · cases h
  · rename_i hb
    cases hb

end Url

namespace Fragment

-- An address to which a source resolves has the scheme and the port of the inbound address, and
-- the host that is derived from the one asked for.
theorem resolve?_pinned {inbound u : Url} {host? : Option Text} {src : Text}
    (h : resolve? inbound host? src = some u) :
    u.scheme = inbound.scheme ∧
      u.port? = (inbound.port?.filter fun p => Url.defaultPort? inbound.scheme ≠ some p) ∧
      ∃ t, host?.or inbound.hostText? = some t ∧
        Url.derivedHost? (Url.isSpecial inbound.scheme) t = some u.host? := by
  simp only [resolve?, Option.bind_eq_bind, Option.bind_eq_some_iff] at h
  obtain ⟨u₁, -, u₂, h₂, u₃, h₃, t, ht, h₄⟩ := h
  have hs := Url.setScheme?_eq_some h₂
  obtain ⟨hs₃, hp₃⟩ := Url.setPort?_eq_some h₃
  obtain ⟨hs₄, hp₄, hh₄⟩ := Url.setHost?_eq_some h₄
  rw [hs₃, hs] at hs₄ hh₄
  rw [hp₃, hs] at hp₄
  exact ⟨hs₄, hp₄, t, ht, hh₄⟩

theorem resolve_eq_ok {inbound u : Url} {host? : Option Text} {src : Text}
    (h : resolve inbound host? src = .ok u) : resolve? inbound host? src = some u := by
  unfold resolve at h
  split at h
  · rw [← Except.ok.inj h]
    assumption
  · cases h

end Fragment
end EdgeIncludes
