import IngressGuard.Proofs.Objects

/-!
# The pool of registerers

The controller keeps one registerer per Dex API address. A request for the registerer of a
backend of unknown kind fails and calls nothing. A request for an address the pool holds hands
out the held registerer and calls nothing either, whatever backend it comes from. A request for
any other address calls the connector, and only a connection that is made joins the pool; a
refused one leaves the pool as it was, so the next request for the address calls the connector
again. A registerer is its connection to its address, so the one handed out without a call is
the one the first served request for that address connected.

`requestRegisterers` takes requests one after another. Over every such run, from every world,
the pool holds the addresses it held before and those some request was served for, each once;
and a connection is counted at an address exactly when a request was served for it while the pool
did not hold it, so the connector succeeds at most once per address.
-/

namespace IngressGuard

open IngressGuard.Dex

/-- The Dex API address of a backend of Dex kind. -/
def AuthBackend.dexAddress? (b : AuthBackend) : Option String :=
  b.dex.map (·.apiUrl)

/-- Requests the registerers of backends one after another from one controller; a request that
fails does not stop the next. -/
def requestRegisterers : List AuthBackend → World → List (Except Failure String) × World
  | [], w => ([], w)
  | b :: bs, w =>
    let first := exec (registererFor b) w
    let rest := requestRegisterers bs first.2
    (first.1 :: rest.1, rest.2)

/-- The Dex addresses of the requests of a history that were served, in order. -/
def servedAddresses (history : List (AuthBackend × Except Failure String)) : List String :=
  history.filterMap fun p => if p.2.isOk then p.1.dexAddress? else none

theorem mem_servedAddresses_cons {a : String} (b : AuthBackend) (r : Except Failure String)
    (history : List (AuthBackend × Except Failure String)) :
    a ∈ servedAddresses ((b, r) :: history) ↔
      (b.dexAddress? = some a ∧ r.isOk) ∨ a ∈ servedAddresses history := by
  unfold servedAddresses
  rw [List.filterMap_cons]
  cases r with
  | error f => cases b.dexAddress? <;> simp [Except.isOk, Except.toBool]
  | ok v =>
    cases b.dexAddress? with
    | none => simp [Except.isOk, Except.toBool]
    | some a₀ =>
      simp only [Except.isOk, Except.toBool, if_true, List.mem_cons, Option.some.injEq, and_true]
      exact or_congr_left eq_comm

namespace World

variable (w : World) (kind : CallKind) (subject a b : String)

@[simp] theorem connected_passCall : (w.passCall kind subject).connected = w.connected := rfl
@[simp] theorem connected_failCall : (w.failCall kind subject).connected = w.connected := rfl
@[simp] theorem dexAt_passCall : (w.passCall kind subject).dexAt a = w.dexAt a := rfl
@[simp] theorem dexAt_failCall : (w.failCall kind subject).dexAt a = w.dexAt a := rfl

@[simp] theorem connected_withConnected : (w.withConnected a).connected = w.connected ++ [a] :=
  rfl

@[simp] theorem connected_withConnect_eq : (w.withConnect a).connected = w.connected := by
  unfold withConnect setDex
  split <;> rfl

@[simp] theorem connects_withConnect :
    ((w.withConnect a).dexAt b).connects = (w.dexAt b).connects + if b = a then 1 else 0 := by
  by_cases h : b = a <;> simp [withConnect, h]

end World

/-! ## The connector -/

section Connector

variable {w : World} {a : String}

theorem exec_dexConnect_blocked (hb : w.Blocked .dexConnect) :
    exec (dexConnect a) w = (.error ⟨.injected .dexConnect, []⟩, w.failCall .dexConnect a) := by
  rw [dexConnect, exec_call, if_pos hb]

theorem exec_dexConnect_bad {e : UriError} (hb : ¬ w.Blocked .dexConnect)
    (he : checkAddress a = .error e) :
    exec (dexConnect a) w = (.error ⟨.badDexAddress a e, []⟩, w.passCall .dexConnect a) := by
  rw [dexConnect, exec_call, if_neg hb]
  simp only [he]
  rfl

theorem exec_dexConnect_ok (hb : ¬ w.Blocked .dexConnect) (he : checkAddress a = .ok ()) :
    exec (dexConnect a) w = (.ok (), (w.passCall .dexConnect a).withConnect a) := by
  rw [dexConnect, exec_call, if_neg hb]
  simp only [he]
  rfl

/-- The connector never touches the pool. -/
theorem connected_dexConnect (a : String) (w : World) :
    (exec (dexConnect a) w).2.connected = w.connected := by
  by_cases hb : w.Blocked .dexConnect
  · rw [exec_dexConnect_blocked hb]
    rfl
  · cases he : checkAddress a with
    | error e => rw [exec_dexConnect_bad hb he]; rfl
    | ok u => rw [exec_dexConnect_ok hb he]; simp

/-- The connector counts a connection at its address when, and only when, it connects. -/
theorem connects_dexConnect (a b : String) (w : World) :
    ((exec (dexConnect a) w).2.dexAt b).connects =
      (w.dexAt b).connects + if b = a ∧ (exec (dexConnect a) w).1.isOk then 1 else 0 := by
  by_cases hb : w.Blocked .dexConnect
  · rw [exec_dexConnect_blocked hb]
    simp [Except.isOk, Except.toBool]
  · cases he : checkAddress a with
    | error e => rw [exec_dexConnect_bad hb he]; simp [Except.isOk, Except.toBool]
    | ok u => rw [exec_dexConnect_ok hb he]; simp [Except.isOk, Except.toBool]

end Connector

/-! ## One request -/

section Request

variable {b : AuthBackend} {d : DexBackend} {w : World}

theorem exec_registererFor_unknown (hd : b.dex = none) :
    exec (registererFor b) w = (.error ⟨.unknownBackendKind b.id, []⟩, w) := by
  unfold registererFor
  rw [hd]
  rfl

theorem exec_registererFor_pooled (hd : b.dex = some d) (h : d.apiUrl ∈ w.connected) :
    exec (registererFor b) w = (.ok d.apiUrl, w) := by
  unfold registererFor
  rw [hd]
  dsimp only
  rw [exec_bind, exec_get]
  simp only [List.contains_iff_mem.2 h, if_true]
  rfl

theorem exec_registererFor_connected {w' : World} (hd : b.dex = some d)
    (h : d.apiUrl ∉ w.connected) (hc : exec (dexConnect d.apiUrl) w = (.ok (), w')) :
    exec (registererFor b) w = (.ok d.apiUrl, w'.withConnected d.apiUrl) := by
  have hn : w.connected.contains d.apiUrl = false := by simpa using h
  unfold registererFor
  rw [hd]
  dsimp only
  rw [exec_bind, exec_get]
  simp only [hn, Bool.false_eq_true, if_false]
  rw [exec_bind, hc]
  rfl

theorem exec_registererFor_refused {w' : World} {f : Failure} (hd : b.dex = some d)
    (h : d.apiUrl ∉ w.connected) (hc : exec (dexConnect d.apiUrl) w = (.error f, w')) :
    exec (registererFor b) w = (.error f, w') := by
  have hn : w.connected.contains d.apiUrl = false := by simpa using h
  unfold registererFor
  rw [hd]
  dsimp only
  rw [exec_bind, exec_get]
  simp only [hn, Bool.false_eq_true, if_false]
  rw [exec_bind, hc]

/-- Every way a request can go: it keeps nothing, leaving the pool and the connection counts as
they were (and when it is served, its address was held); or it connects to an address the pool
did not hold, hands that address out, adds it to the pool and counts the connection there. -/
theorem registererFor_cases (b : AuthBackend) (w : World) :
    ((exec (registererFor b) w).2.connected = w.connected ∧
      (∀ a, ((exec (registererFor b) w).2.dexAt a).connects = (w.dexAt a).connects) ∧
      ((exec (registererFor b) w).1.isOk → ∃ a, b.dexAddress? = some a ∧ a ∈ w.connected)) ∨
    ∃ a, b.dexAddress? = some a ∧ a ∉ w.connected ∧ (exec (registererFor b) w).1 = .ok a ∧
      (exec (registererFor b) w).2.connected = w.connected ++ [a] ∧
      ∀ a', ((exec (registererFor b) w).2.dexAt a').connects =
        (w.dexAt a').connects + if a' = a then 1 else 0 := by
  cases hd : b.dex with
  | none =>
    rw [exec_registererFor_unknown hd]
    exact .inl ⟨rfl, fun _ => rfl, fun h => by cases h⟩
  | some d =>
    have ha : b.dexAddress? = some d.apiUrl := by simp [AuthBackend.dexAddress?, hd]
    by_cases hp : d.apiUrl ∈ w.connected
    · rw [exec_registererFor_pooled hd hp]
      exact .inl ⟨rfl, fun _ => rfl, fun _ => ⟨d.apiUrl, ha, hp⟩⟩
    -- an address not held: the request is the connector's call, and keeps what it connects
    have hpool := connected_dexConnect d.apiUrl w
    have hcount := fun a => connects_dexConnect d.apiUrl a w
    rcases hc : exec (dexConnect d.apiUrl) w with ⟨_ | u, w'⟩
    · rw [exec_registererFor_refused hd hp hc]
      rw [hc] at hpool hcount
      exact .inl ⟨hpool, fun a => by simpa [Except.isOk, Except.toBool] using hcount a,
        fun h => by cases h⟩
    · rw [exec_registererFor_connected hd hp hc]
      rw [hc] at hpool hcount
      dsimp only at hpool
      refine .inr ⟨d.apiUrl, ha, hp, rfl, by rw [World.connected_withConnected, hpool],
        fun a => ?_⟩
      have h := hcount a
      simp only [Except.isOk, Except.toBool, and_true] at h
      exact h

/-- The pool after a request: the address of a backend is added when the request is served. -/
theorem mem_connected_registererFor (b : AuthBackend) (w : World) (a : String) :
    a ∈ (exec (registererFor b) w).2.connected ↔
      a ∈ w.connected ∨ (b.dexAddress? = some a ∧ (exec (registererFor b) w).1.isOk) := by
  rcases registererFor_cases b w with ⟨hpool, -, hok⟩ | ⟨a₀, ha₀, -, hr, hpool, -⟩
  · rw [hpool]
    constructor
    · exact .inl
    · rintro (h | ⟨hb, hr⟩)
      · exact h
      · obtain ⟨a₁, hb₁, hmem⟩ := hok hr
        rw [hb] at hb₁
        cases hb₁
        exact hmem
  · rw [hpool, hr, List.mem_append, List.mem_singleton, ha₀]
    constructor
    · rintro (h | rfl)
      · exact .inl h
      · exact .inr ⟨rfl, rfl⟩
    · rintro (h | ⟨h, -⟩)
      · exact .inl h
      · exact .inr (Option.some.inj h).symm

/-- A request adds to the pool at most one address, one it did not hold. -/
theorem connected_registererFor (b : AuthBackend) (w : World) :
    ∃ fresh, (exec (registererFor b) w).2.connected = w.connected ++ fresh ∧ fresh.Nodup ∧
      ∀ a ∈ fresh, a ∉ w.connected := by
  rcases registererFor_cases b w with ⟨hpool, -, -⟩ | ⟨a₀, -, hnot, -, hpool, -⟩
  · exact ⟨[], by rw [hpool, List.append_nil], List.nodup_nil, fun _ h => by cases h⟩
  · refine ⟨[a₀], hpool, List.nodup_cons.2 ⟨List.not_mem_nil, List.nodup_nil⟩, fun a ha => ?_⟩
    rw [List.mem_singleton.1 ha]
    exact hnot

/-- A request counts a connection at an address exactly when it adds the address to the pool. -/
theorem connects_registererFor (b : AuthBackend) (w : World) (a : String) :
    ((exec (registererFor b) w).2.dexAt a).connects + (if a ∈ w.connected then 1 else 0) =
      (w.dexAt a).connects + if a ∈ (exec (registererFor b) w).2.connected then 1 else 0 := by
  rcases registererFor_cases b w with ⟨hpool, hcount, -⟩ | ⟨a₀, -, hnot, -, hpool, hcount⟩
  · rw [hcount, hpool]
  · rw [hcount, hpool]
    by_cases h : a = a₀
    · subst h
      simp [hnot]
    · simp [h]

end Request

/-! ## Runs of requests -/

section Run

variable (bs : List AuthBackend) (w₀ : World)

theorem requestRegisterers_cons (b : AuthBackend) :
    requestRegisterers (b :: bs) w₀ =
      ((exec (registererFor b) w₀).1 :: (requestRegisterers bs (exec (registererFor b) w₀).2).1,
        (requestRegisterers bs (exec (registererFor b) w₀).2).2) := rfl

/-- The pool after a run holds the addresses held before and those some request was served
for. -/
theorem mem_connected_requestRegisterers (a : String) :
    a ∈ (requestRegisterers bs w₀).2.connected ↔
      a ∈ w₀.connected ∨ a ∈ servedAddresses (bs.zip (requestRegisterers bs w₀).1) := by
  induction bs generalizing w₀ with
  | nil => simp [requestRegisterers, servedAddresses]
  | cons b bs ih =>
    rw [requestRegisterers_cons, List.zip_cons_cons, mem_servedAddresses_cons, ih,
      mem_connected_registererFor, or_assoc]

/-- A run adds to the pool only addresses it did not hold, each once. -/
theorem connected_requestRegisterers :
    ∃ fresh, (requestRegisterers bs w₀).2.connected = w₀.connected ++ fresh ∧ fresh.Nodup ∧
      ∀ a ∈ fresh, a ∉ w₀.connected := by
  induction bs generalizing w₀ with
  | nil => exact ⟨[], by simp [requestRegisterers], List.nodup_nil, fun _ h => by cases h⟩
  | cons b bs ih =>
    obtain ⟨first, hfirst, hnd₁, hnew₁⟩ := connected_registererFor b w₀
    obtain ⟨rest, hrest, hnd₂, hnew₂⟩ := ih (exec (registererFor b) w₀).2
    rw [hfirst] at hrest hnew₂
    refine ⟨first ++ rest, by rw [requestRegisterers_cons, hrest, List.append_assoc], ?_, ?_⟩
    · refine List.nodup_append.2 ⟨hnd₁, hnd₂, fun x hx y hy hxy => ?_⟩
      subst hxy
      exact hnew₂ x hy (List.mem_append_right _ hx)
    · intro a ha
      rcases List.mem_append.1 ha with h | h
      · exact hnew₁ a h
      · exact fun h₀ => hnew₂ a h (List.mem_append_left _ h₀)

/-- Connections counted and the pool grow together along a run. -/
theorem connects_requestRegisterers (a : String) :
    ((requestRegisterers bs w₀).2.dexAt a).connects + (if a ∈ w₀.connected then 1 else 0) =
      (w₀.dexAt a).connects + if a ∈ (requestRegisterers bs w₀).2.connected then 1 else 0 := by
  induction bs generalizing w₀ with
  | nil => rfl
  | cons b bs ih =>
    have hstep := connects_registererFor b w₀ a
    have hrest := ih (exec (registererFor b) w₀).2
    rw [requestRegisterers_cons]
    dsimp only
    omega

/-- So a run counts a connection at an address exactly when it served a request for the address
while the pool did not hold it. -/
theorem connects_requestRegisterers_eq (a : String) :
    ((requestRegisterers bs w₀).2.dexAt a).connects = (w₀.dexAt a).connects +
      if a ∉ w₀.connected ∧ a ∈ servedAddresses (bs.zip (requestRegisterers bs w₀).1) then 1
      else 0 := by
  have hcount := connects_requestRegisterers bs w₀ a
  have hmem := mem_connected_requestRegisterers bs w₀ a
  by_cases h₀ : a ∈ w₀.connected
  · simp only [h₀, hmem.2 (.inl h₀), if_true, not_true_eq_false, false_and, if_false] at hcount ⊢
    omega
  · simp only [h₀, false_or, if_false, not_false_eq_true, true_and] at hcount hmem ⊢
    simp only [hmem] at hcount
    omega

end Run

/-- The pool of registerers is a memo per Dex API address. After any run of requests, from any
world, with any faults planned: the pool holds the addresses it held before and those some
request was served for; it grew only by addresses it did not hold, each once; and a connection
was counted at an address exactly when a request for it was served while the pool did not hold
it, so the connector succeeded at most once per address. The next request, from any backend:
one of unknown kind fails and calls nothing; one whose address was held or served hands out the
held registerer, calls nothing and changes nothing; any other calls the connector, keeps the
connection in the pool when it is made, and otherwise fails as the connector did with the pool
as it was, so that the request after it calls the connector again. -/
theorem registerer_pool_is_memo (bs : List AuthBackend) (w₀ : World) :
    let run := requestRegisterers bs w₀
    let served := servedAddresses (bs.zip run.1)
    (∀ a, a ∈ run.2.connected ↔ a ∈ w₀.connected ∨ a ∈ served) ∧
    (∃ fresh, run.2.connected = w₀.connected ++ fresh ∧ fresh.Nodup ∧
      ∀ a ∈ fresh, a ∉ w₀.connected) ∧
    (∀ a, (run.2.dexAt a).connects =
      (w₀.dexAt a).connects + if a ∉ w₀.connected ∧ a ∈ served then 1 else 0) ∧
    ∀ b : AuthBackend,
      (b.dex = none → exec (registererFor b) run.2 = (.error ⟨.unknownBackendKind b.id, []⟩, run.2)) ∧
      ∀ d, b.dex = some d →
        ((d.apiUrl ∈ w₀.connected ∨ d.apiUrl ∈ served) →
          exec (registererFor b) run.2 = (.ok d.apiUrl, run.2)) ∧
        (¬ (d.apiUrl ∈ w₀.connected ∨ d.apiUrl ∈ served) →
          (∀ w', exec (dexConnect d.apiUrl) run.2 = (.ok (), w') →
            exec (registererFor b) run.2 = (.ok d.apiUrl, w'.withConnected d.apiUrl)) ∧
          ∀ f w', exec (dexConnect d.apiUrl) run.2 = (.error f, w') →
            exec (registererFor b) run.2 = (.error f, w') ∧ w'.connected = run.2.connected) := by
  intro run served
  have hmem := mem_connected_requestRegisterers bs w₀
  refine ⟨hmem, connected_requestRegisterers bs w₀, connects_requestRegisterers_eq bs w₀,
    fun b => ⟨exec_registererFor_unknown, fun d hd => ⟨fun hheld => ?_, fun hnew => ?_⟩⟩⟩
  · exact exec_registererFor_pooled hd ((hmem _).2 hheld)
  · have hp : d.apiUrl ∉ run.2.connected := fun h => hnew ((hmem _).1 h)
    refine ⟨fun w' hc => exec_registererFor_connected hd hp hc, fun f w' hc => ?_⟩
    have hpool := connected_dexConnect d.apiUrl run.2
    rw [hc] at hpool
    exact ⟨exec_registererFor_refused hd hp hc, hpool⟩

/-- A controller that holds a connection to `dex-a:5557` serves the backends `a` and `b` there
from its pool, and then a backend `c` there as well, without connecting. -/
theorem pooled_address_served_without_connecting :
    let w₀ : World := { connected := ["dex-a:5557"] }
    let dexA : DexBackend := ⟨"dex-a:5557", "https://test-dex.dev"⟩
    let run := requestRegisterers [⟨"a", some dexA⟩, ⟨"b", some dexA⟩] w₀
    exec (registererFor ⟨"c", some dexA⟩) run.2 = (.ok "dex-a:5557", run.2) ∧
      (run.2.dexAt "dex-a:5557").connects = 0 := by
  intro w₀ dexA run
  obtain ⟨-, -, hcount, hnext⟩ := registerer_pool_is_memo [⟨"a", some dexA⟩, ⟨"b", some dexA⟩] w₀
  have hheld : dexA.apiUrl ∈ w₀.connected := List.mem_singleton.2 rfl
  refine ⟨((hnext ⟨"c", some dexA⟩).2 dexA rfl).1 (.inl hheld), ?_⟩
  rw [hcount]
  simp [w₀, World.dexAt]

end IngressGuard
