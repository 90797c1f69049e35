import EdgeIncludes.Proofs.Completion
import EdgeIncludes.Proofs.Pinning

namespace EdgeIncludes

-- A host whose text is read as no other host.
def Host.Stable (special : Bool) (h : Host) : Prop :=
  ∀ x, Url.derivedHost? special h.toText = some x → x = some h

-- The requests that a run can get to, and whether they are direct. The fragments are those of any
-- text that can be the answer to a request that is not direct.
inductive Reaches (c : Config) (i : Inbound) : Inbound → Bool → Prop
  | start : Reaches c i i false
  | fragment {j : Inbound} {body : Text} {f : Fragment} (hj : Reaches c i j false)
      (hf : f ∈ (scan c j body).fetches) :
      Reaches c i (j.forFragment f.request f.url) (Fragment.directHost? c j).isSome

-- An address that has the scheme and port of the inbound one, and its host or the one of the
-- settings.
structure Confined (c : Config) (i : Inbound) (u : Url) : Prop where
  scheme_eq : u.scheme = i.url.scheme
  port?_eq : u.port? = i.url.port?
  host?_eq : match Fragment.directHost? c i with
    | none => u.host? = i.url.host?
    | some t => Url.derivedHost? (Url.isSpecial i.url.scheme) t = some u.host?

namespace Inbound

theorem ofRequest_eq_ok {r : Http.Request} {i : Inbound} (h : ofRequest r = .ok i) :
    i.request = r ∧ i.url.PlainPort := by
  simp only [ofRequest, bind, Except.bind] at h
  split at h
  · cases h
  · split at h
    · rename_i u hu
      rw [← Except.ok.inj h]
      exact ⟨rfl, Url.plainPort_ofText? hu⟩
    · cases h

end Inbound

variable {c : Config} {i : Inbound}

-- What stays the same on the way from one request to another.
structure Related (i j : Inbound) (direct : Bool) : Prop where
  settings_eq : j.settings = i.settings
  scheme_eq : j.url.scheme = i.url.scheme
  port?_eq : j.url.port? = i.url.port?
  host?_eq : direct = false → j.url.host? = i.url.host?

theorem Related.directHost?_eq {j : Inbound} {direct : Bool} (h : Related i j direct) (c : Config) :
    Fragment.directHost? c j = Fragment.directHost? c i := by
  rw [Fragment.directHost?, Inbound.setting?, h.settings_eq]
  rfl

section Plain

variable (hp : i.url.PlainPort)
  (hs : ∀ h, i.url.host? = some h → h.Stable (Url.isSpecial i.url.scheme))

include hp hs

theorem Related.confined {j : Inbound} (hj : Related i j false) {src : Text} {u : Url}
    (hu : Fragment.resolve? j.url (Fragment.directHost? c j) src = some u) : Confined c i u := by
  obtain ⟨hscheme, hport, t, ht, hh⟩ := Fragment.resolve?_pinned hu
  rw [hj.scheme_eq] at hscheme hport hh
  refine ⟨hscheme, ?_, ?_⟩
  · rw [hport, hj.port?_eq, hp.filter_eq]
  · rw [hj.directHost?_eq] at ht
    split
    · rename_i hn
      rw [hn, Option.none_or, Url.hostText?, hj.host?_eq rfl] at ht
      obtain ⟨h, hi, rfl⟩ := Option.map_eq_some_iff.1 ht
      rw [hi, hs h hi _ hh]
    · rename_i hn
      rw [hn, Option.some_or] at ht
      rw [Option.some.inj ht, hh]

theorem Related.confined_of_mem {j : Inbound} (hj : Related i j false) {body : Text} {f : Fragment}
    (hf : f ∈ (scan c j body).fetches) : Confined c i f.url := by
  obtain ⟨t, ht⟩ := exists_asksFor hf
  obtain ⟨src, -, hr⟩ := ht.url_eq
  exact hj.confined hp hs (Fragment.resolve_eq_ok hr)

-- Each step keeps the settings, so either all fragments come from the host of the settings and none
-- of them is processed, or all have the host of the first request.
theorem Reaches.related {j : Inbound} {direct : Bool} (h : Reaches c i j direct) :
    Related i j direct := by
  induction h with
  | start => exact ⟨rfl, rfl, rfl, fun _ => rfl⟩
  | @fragment j body f _ hf ih =>
    have hc := ih.confined_of_mem hp hs hf
    refine ⟨ih.settings_eq, hc.scheme_eq, hc.port?_eq, fun hd => ?_⟩
    have hn : Fragment.directHost? c i = none := by simpa [ih.directHost?_eq] using hd
    have hh := hc.host?_eq
    rw [hn] at hh
    exact hh

end Plain

-- A job whose requests are all among those of `W`.
inductive Job.Within (W : Inbound → Bool → Prop) : Job → Prop
  | unsent {i : Inbound} {direct : Bool} (h : W i direct) : Job.Within W (.unsent i direct)
  | waiting {i : Inbound} {direct : Bool} {n : Nat} {o : Outcome} (h : W i direct) :
      Job.Within W (.waiting i direct n o)
  | filling {i : Inbound} {r : Http.Response} {p : Page Job}
      (h : ∀ e ∈ p.queue.tasks, Job.Within W e.2) : Job.Within W (.filling i r p)

-- All requests that have been sent are among those of `W`.
def Traffic.SentWithin (W : Inbound → Bool → Prop) (s : Traffic) : Prop :=
  ∀ r ∈ s.sent, ∃ i direct, W i direct ∧ r = i.request

theorem Traffic.SentWithin.send {W : Inbound → Bool → Prop} {s : Traffic} (h : s.SentWithin W)
    {i : Inbound} {direct : Bool} (hi : W i direct) (b : Backend) :
    (b.send s i.request).1.SentWithin W := by
  intro r hr
  rcases b.sent_send s i.request with he | he
  · exact h r (he ▸ hr)
  · rw [he, List.mem_append, List.mem_singleton] at hr
    rcases hr with hr | rfl
    · exact h r hr
    · exact ⟨i, direct, hi, rfl⟩

namespace Job

open Page (Polls Holds exists_of_mem_pageOf)

variable {W : Inbound → Bool → Prop} {b : Backend} {s : Traffic}
  {step : Traffic → Job → Traffic × Poll Job Arrival}

-- The fragments of every text that a request in `W` can be answered with are in `W`.
def Closed (c : Config) (W : Inbound → Bool → Prop) : Prop :=
  ∀ j body, W j false → ∀ f ∈ (scan c j body).fetches,
    W (j.forFragment f.request f.url) (Fragment.directHost? c j).isSome

theorem within_fillStep
    (hstep : ∀ s j, s.SentWithin W → Within W j → Polls (·.SentWithin W) (Within W) (step s j))
    {i : Inbound} {r : Http.Response} {p : Page Job}
    (hx : Holds (·.SentWithin W) (Within W) (s, p)) :
    Polls (·.SentWithin W) (Within W) (fillStep i r (p.poll step s)) := by
  have h := hx.poll hstep fun _ _ h => h
  rcases hr : p.poll step s with ⟨s', p' | f⟩ <;> rw [hr] at h
  · refine ⟨h.1, ?_⟩
    rintro _ ⟨⟩
    exact .filling (h.2 p' rfl)
  · exact ⟨h.1, fun _ he => nomatch he⟩

theorem within_deliver (hw : Closed c W)
    (hstep : ∀ s j, s.SentWithin W → Within W j → Polls (·.SentWithin W) (Within W) (step s j))
    {i : Inbound} {direct : Bool} {o : Outcome} (hs : s.SentWithin W) (hi : W i direct) :
    Polls (·.SentWithin W) (Within W) (deliver c step s i direct o) := by
  unfold deliver
  cases o with
  | error f => exact ⟨hs, fun _ he => nomatch he⟩
  | ok r =>
    simp only
    split
    · exact ⟨hs, fun _ he => nomatch he⟩
    · rename_i hd
      have hd : direct = false := by
        cases direct
        · rfl
        · simp at hd
      refine within_fillStep hstep ⟨hs, ?_⟩
      intro e he
      obtain ⟨f, hf, hj⟩ := exists_of_mem_pageOf he
      rw [hj]
      exact .unsent (hw i r.body (hd ▸ hi) f hf)

theorem within_poll (hw : Closed c W) (d : Nat) (s : Traffic) (j : Job) (hs : s.SentWithin W)
    (hj : Within W j) : Polls (·.SentWithin W) (Within W) (poll c b d s j) := by
  induction d generalizing s j with
  | zero =>
    refine ⟨hs, ?_⟩
    rintro _ ⟨⟩
    exact hj
  | succ d ih =>
    cases hj with
    | @unsent i direct hi =>
      have hsent := hs.send hi b
      rcases hr : b.send s i.request with ⟨s₁, a⟩
      rw [hr] at hsent
      unfold poll
      simp only [hr]
      split
      · exact within_deliver hw ih hsent hi
      · refine ⟨hsent, ?_⟩
        rintro _ ⟨⟩
        exact .waiting hi
    | @waiting i direct n o hi =>
      cases n with
      | zero => exact within_deliver hw ih hs hi
      | succ n =>
        refine ⟨hs, ?_⟩
        rintro _ ⟨⟩
        exact .waiting hi
    | @filling i r p hq => exact within_fillStep ih ⟨hs, hq⟩

end Job

-- What every poll of a run keeps of the traffic holds in the end.
theorem Backend.run_keeps {τ β : Type} (b : Backend) (step : Traffic → τ → Traffic × Poll τ β)
    {S : Traffic → Prop} {P : τ → Prop}
    (hstep : ∀ s t, S s → P t → S (step s t).1 ∧ ∀ t', (step s t).2 = .pending t' → P t')
    {s : Traffic} {t : τ} (hs : S s) (ht : P t) : S (b.run step s t).1 := by
  fun_induction b.run step s t with
  | case1 s t s' a hr =>
    have h := (hstep s t hs ht).1
    rwa [hr] at h
  | case2 s t s' t' hr ha ih =>
    have h := hstep s t hs ht
    rw [hr] at h
    exact ih h.1 (h.2 _ rfl)
  | case3 s t s' t' hr ha =>
    have h := (hstep s t hs ht).1
    rwa [hr] at h

namespace Fragment

-- The request for a fragment goes to its address.
theorem uri_of_build {extra? : Option Text} {u : Url} {r : Http.Request} {log : Log}
    (h : build c extra? u = .ok (r, log)) : Http.Uri.ofText u.toText = .ok r.uri := by
  unfold build at h
  split at h
  · cases h
  · rename_i r' hr
    obtain ⟨rfl, -⟩ := Prod.mk.inj (Except.ok.inj h)
    cases hu : Http.Uri.ofText u.toText with
    | error e => simp [baseRequest, hu, bind, Except.bind, Except.mapError] at hr
    | ok uri =>
      simp only [baseRequest, hu, bind, Except.bind, Except.mapError] at hr
      split at hr
      · cases hr
      · rw [← Except.ok.inj hr]

-- An include whose source has no address fails, and asks for nothing.
theorem directive_eq_fail {j : Inbound} {t : Tag} {taken : Bool} {ctx : Context} {src : Text}
    (ht : t.attribute? "src".toList = some src)
    (hu : resolve? j.url (directHost? c j) (substituteInbound j.url (unescape c.escaped src)) =
      none) :
    directive c j t taken ctx =
      .fail ctx (.badUrl (substituteInbound j.url (unescape c.escaped src))) := by
  have hr : t.require "src".toList = .ok src := by rw [Tag.require, ht]
  have ho : ofSource c j src =
      .error (.badUrl (substituteInbound j.url (unescape c.escaped src))) := by
    simp only [ofSource, resolve, hu, bind, Except.bind]
  rw [directive, hr]
  simp only [Except.bind, ho]

end Fragment

-- A fragment that a run can ask for.
def Asked (c : Config) (i : Inbound) (f : Fragment) : Prop :=
  ∃ j body, Reaches c i j false ∧ f ∈ (scan c j body).fetches

namespace Processor

theorem sent_reaches (p : Processor) (i : Inbound) :
    (p.handle i).1.SentWithin (Reaches p.config i) := by
  have hw : Job.Closed p.config (Reaches p.config i) := fun _ _ hj _ hf => .fragment hj hf
  have h : (p.backend.run p.step {} (.unsent i false)).1.SentWithin (Reaches p.config i) :=
    p.backend.run_keeps p.step (Job.within_poll hw _) (fun _ hr => nomatch hr) (.unsent .start)
  exact h

-- In a run for any request, with any settings, against any backend: every fragment of every
-- document has the scheme and the port of the address of the request, and its host or the one that
-- the settings give. A source that has no such address is reported as bad and is not fetched. And
-- the requests that are sent are the first one and those for such fragments.
theorem fragments_confined (p : Processor) (r : Http.Request) (i : Inbound)
    (settings : Bindings Text) (h : Inbound.ofRequest r = .ok i)
    (hs : ∀ x, i.url.host? = some x → x.Stable (Url.isSpecial i.url.scheme)) :
    let i := { i with settings }
    (∀ f, Asked p.config i f →
      Confined p.config i f.url ∧ Http.Uri.ofText f.url.toText = .ok f.request.uri) ∧
    (∀ j t taken ctx src, Reaches p.config i j false → t.attribute? "src".toList = some src →
      let src := Fragment.substituteInbound j.url (Fragment.unescape p.config.escaped src)
      (∃ u, Fragment.resolve? j.url (Fragment.directHost? p.config j) src = some u ∧
        Confined p.config i u) ∨
      Fragment.directive p.config j t taken ctx = .fail ctx (.badUrl src)) ∧
    ∀ q ∈ (p.handle i).1.sent, q = r ∨ ∃ f, Asked p.config i f ∧ q = f.request := by
  obtain ⟨hr, hp⟩ := Inbound.ofRequest_eq_ok h
  intro i
  have hp : i.url.PlainPort := hp
  have hs : ∀ x, i.url.host? = some x → x.Stable (Url.isSpecial i.url.scheme) := hs
  refine ⟨?_, ?_, ?_⟩
  · rintro f ⟨j, body, hj, hf⟩
    obtain ⟨t, ht⟩ := exists_asksFor hf
    obtain ⟨log, hb⟩ := ht.request_eq
    exact ⟨(hj.related hp hs).confined_of_mem hp hs hf, Fragment.uri_of_build hb⟩
  · intro j t taken ctx src hj ht src'
    cases hu : Fragment.resolve? j.url (Fragment.directHost? p.config j) src' with
    | some u => exact .inl ⟨u, rfl, (hj.related hp hs).confined hp hs hu⟩
    | none => exact .inr (Fragment.directive_eq_fail ht hu)
  · intro q hq
    obtain ⟨j, direct, hj, rfl⟩ := p.sent_reaches i q hq
    cases hj with
    | start => exact .inl hr
    | @fragment j body f hj hf => exact .inr ⟨f, ⟨j, body, hj, hf⟩, rfl⟩

-- A source with a scheme, a host and a port of its own.
theorem foreign_source_confined :
    let r : Http.Request := ⟨⟨some "http".toList, "[::1]".toList, "/page".toList, none⟩, {}⟩
    let x : Host := .eight [0, 0, 0, 0, 0, 0, 0, 1]
    let i : Inbound := {
      request := r
      url := ⟨"http".toList, some { host? := some x }, .segments ["page".toList], none, none⟩ }
    let src := "https://[::2]:8443/a".toList
    Inbound.ofRequest r = .ok i ∧ x.Stable true ∧
      ∃ u, Fragment.resolve? i.url none
        (Fragment.substituteInbound i.url (Fragment.unescape true src)) = some u ∧
          Confined {} i u := by
  intro r x i src
  have hi : Inbound.ofRequest r = .ok i := by
    have ht : Url.ofText? "http://[::1]/page".toList = some i.url := by decide +kernel
    have ha : Inbound.absoluteText r = .ok "http://[::1]/page".toList := rfl
    simp only [Inbound.ofRequest, ha, bind, Except.bind, ht]
    rfl
  have hx : x.Stable true := by
    intro y hy
    have hd : Url.derivedHost? true x.toText = some (some x) := by decide +kernel
    rw [hd] at hy
    exact (Option.some.inj hy).symm
  have hs : ∀ y, i.url.host? = some y → y.Stable (Url.isSpecial i.url.scheme) := by
    rintro _ ⟨⟩
    exact hx
  let t : Tag := ⟨"include".toList, [("src".toList, src)], [], none⟩
  have hf : (Fragment.directive {} i t false {}).fetches.length = 1 := by decide +kernel
  obtain ⟨-, h, -⟩ := fragments_confined ⟨{}, ⟨fun _ _ => ⟨.error stalled, 0⟩, 1⟩⟩ r i ⟨[]⟩ hi hs
  rcases h i t false {} src .start rfl with hu | hfail
  · exact ⟨hi, hx, hu⟩
  · rw [show Fragment.directive {} i t false {} = _ from hfail] at hf
    cases hf

end Processor
end EdgeIncludes
