import SiyadahOrchestrator.Foundations.Dialogue

/-!
# A peer with a state

A `Dialogue` says what a program sends, for all replies. Here the peer gets a state of its own, and
a relation `serves` says how it may answer: whether it executes a request, with what reply, and what
state it is in afterwards. A reply that is lost need not mean that nothing was executed, so the two
are independent unless `serves` ties them together.

`Triple` is the Hoare triple of a program against such a peer. Besides the two postconditions (for a
program that returns and for one that raises) it carries a guarantee `G` that every event on the way
meets. `triple_of_sends` is the rule for programs of which only the requests matter; `Triple.bind`
and `Triple.handle` put triples together.
-/

/-- A peer with states `W`: in the state `w` a request may be answered by a reply, executed or not,
and leave another state. -/
structure Peer (W Q R : Type) where
  serves : W → Q → R → Bool → W → Prop

/-- One exchange with the peer: the state before it, and whether the request is executed. -/
structure Peer.Event (W Q R : Type) where
  before : W
  call : Q
  reply : R
  executed : Bool

namespace Peer

variable {W Q R : Type}

/-- What the program sees of an event. -/
def Event.exchange (e : Event W Q R) : Q × R := (e.call, e.reply)

/-- The events lead the peer from one state to another. -/
inductive Serves (p : Peer W Q R) : W → List (Event W Q R) → W → Prop where
  | nil (w) : Serves p w [] w
  | cons {w q r done u es w'} (head : p.serves w q r done u) (tail : Serves p u es w') :
      Serves p w (⟨w, q, r, done⟩ :: es) w'

variable {p : Peer W Q R} {w w' : W} {es : List (Event W Q R)}

theorem serves_nil_iff : p.Serves w [] w' ↔ w' = w := by
  constructor
  · rintro ⟨⟩
    rfl
  · rintro rfl
    exact .nil w'

/-- Events can be cut where their exchanges can. -/
theorem Serves.of_exchange_append {l₁ l₂ : List (Q × R)} (h : p.Serves w es w')
    (hl : es.map Event.exchange = l₁ ++ l₂) : ∃ es₁ es₂ u, es = es₁ ++ es₂ ∧
      es₁.map Event.exchange = l₁ ∧ es₂.map Event.exchange = l₂ ∧ p.Serves w es₁ u ∧
      p.Serves u es₂ w' := by
  induction l₁ generalizing w es with
  | nil => exact ⟨[], es, w, rfl, rfl, hl, .nil w, h⟩
  | cons e l₁ ih =>
    cases h with
    | nil => exact absurd hl (by simp)
    | cons head tail =>
      rw [List.map_cons, List.cons_append, List.cons.injEq] at hl
      obtain ⟨es₁, es₂, v, rfl, h₁, h₂, hs₁, hs₂⟩ := ih tail hl.2
      exact ⟨_ :: es₁, es₂, v, rfl, by rw [List.map_cons, hl.1, h₁], h₂, .cons head hs₁, hs₂⟩

/-- The state before each event is one that the events before it have led to, so an invariant of the
single events holds in it. -/
theorem Serves.invariant {I : W → Prop} {G : Event W Q R → Prop} (h : p.Serves w es w')
    (hw : I w) (hstep : ∀ e ∈ es, ∀ u, I e.before →
      p.serves e.before e.call e.reply e.executed u → G e ∧ I u) :
    (∀ e ∈ es, G e) ∧ I w' := by
  induction h with
  | nil w => exact ⟨fun e he ↦ absurd he List.not_mem_nil, hw⟩
  | cons head tail ih =>
    obtain ⟨hG, hu⟩ := hstep _ List.mem_cons_self _ hw head
    obtain ⟨hrest, hend⟩ := ih hu fun e he ↦ hstep e (List.mem_cons_of_mem _ he)
    exact ⟨List.forall_mem_cons.2 ⟨hG, hrest⟩, hend⟩

end Peer

/-! ### Triples -/

section Triples

open Dialogue

variable {W Q R σ ε α β : Type} {p : Peer W Q R} {G : Peer.Event W Q R → Prop}
  {I : W → Prop} {K : α → W → Prop} {E : W → Prop} {m : Dialogue Q R σ ε α}

/-- From a state with `I`, every event meets `G`; the state at the end meets `K` when the program
returns, and `E` when it raises. -/
def Triple (p : Peer W Q R) (G : Peer.Event W Q R → Prop) (I : W → Prop)
    (m : Dialogue Q R σ ε α) (K : α → W → Prop) (E : W → Prop) : Prop :=
  ∀ s x t w es w', m.Runs s (es.map Peer.Event.exchange) x t → p.Serves w es w' → I w →
    (∀ e ∈ es, G e) ∧ (∀ a, x = .ok a → K a w') ∧ ∀ e, x = .error e → E w'

theorem Triple.mono {I' E' : W → Prop} {K' : α → W → Prop} (h : Triple p G I m K E)
    (hI : ∀ w, I' w → I w) (hK : ∀ a w, K a w → K' a w) (hE : ∀ w, E w → E' w) :
    Triple p G I' m K' E' := by
  intro s x t w es w' hrun hserves hw
  obtain ⟨hG, hok, herror⟩ := h s x t w es w' hrun hserves (hI w hw)
  exact ⟨hG, fun a ha ↦ hK a w' (hok a ha), fun e he ↦ hE w' (herror e he)⟩

/-- What the precondition says besides the state may be assumed. -/
theorem triple_of_fact {φ : Prop} (h : φ → Triple p G I m K E) :
    Triple p G (fun w ↦ φ ∧ I w) m K E :=
  fun s x t w es w' hrun hserves hw ↦ h hw.1 s x t w es w' hrun hserves hw.2

theorem triple_exists {ι : Type} {I : ι → W → Prop} (h : ∀ i, Triple p G (I i) m K E) :
    Triple p G (fun w ↦ ∃ i, I i w) m K E :=
  fun s x t w es w' hrun hserves ⟨i, hw⟩ ↦ h i s x t w es w' hrun hserves hw

theorem triple_lift (x : Except ε α) (hok : ∀ a w, x = .ok a → I w → K a w)
    (herror : ∀ e w, x = .error e → I w → E w) :
    Triple p G I (lift x : Dialogue Q R σ ε α) K E := by
  intro s y t w es w' hrun hserves hw
  obtain ⟨hes, rfl, rfl⟩ := runs_lift_iff.1 hrun
  obtain rfl := List.map_eq_nil_iff.1 hes
  obtain rfl := Peer.serves_nil_iff.1 hserves
  exact ⟨fun e he ↦ absurd he List.not_mem_nil, fun a ha ↦ hok a w' ha hw,
    fun e he ↦ herror e w' he hw⟩

theorem triple_pure {a : α} (h : ∀ w, I w → K a w) :
    Triple p G I (pure a : Dialogue Q R σ ε α) K E :=
  triple_lift (.ok a) (fun _ w ha hw ↦ Except.ok.inj ha ▸ h w hw) fun _ _ he ↦ absurd he (by simp)

theorem triple_raise {e : ε} (h : ∀ w, I w → E w) :
    Triple p G I (raise e : Dialogue Q R σ ε α) K E :=
  triple_lift (.error e) (fun _ _ ha ↦ absurd ha (by simp)) fun _ w _ hw ↦ h w hw

/-- Sequencing: the second part starts where the first one has returned. -/
theorem Triple.bind {f : α → Dialogue Q R σ ε β} {L : β → W → Prop} (hm : Triple p G I m K E)
    (hf : ∀ a, Triple p G (K a) (f a) L E) : Triple p G I (m >>= f) L E := by
  intro s y t w es w' hrun hserves hw
  rcases runs_bind_iff.1 hrun with ⟨l₁, l₂, a, u, hl, h₁, h₂⟩ | ⟨e, rfl, h'⟩
  · obtain ⟨es₁, es₂, v, rfl, rfl, rfl, hs₁, hs₂⟩ := hserves.of_exchange_append hl
    obtain ⟨hG₁, hok, -⟩ := hm _ _ _ _ _ _ h₁ hs₁ hw
    obtain ⟨hG₂, hpost⟩ := hf a _ _ _ _ _ _ h₂ hs₂ (hok a rfl)
    exact ⟨List.forall_mem_append.2 ⟨hG₁, hG₂⟩, hpost⟩
  · obtain ⟨hG, -, herror⟩ := hm _ _ _ _ _ _ h' hserves hw
    exact ⟨hG, fun b hb ↦ absurd hb (by simp), fun _ _ ↦ herror e rfl⟩

theorem Triple.map {f : α → β} {L : W → Prop} (hm : Triple p G I m (fun _ ↦ L) E) :
    Triple p G I (f <$> m) (fun _ ↦ L) E :=
  hm.bind fun _ ↦ triple_pure fun _ h ↦ h

/-- Handling: the handler starts where the program has raised. -/
theorem Triple.handle {g : ε → Dialogue Q R σ ε α} {E' : W → Prop} (hm : Triple p G I m K E)
    (hg : ∀ e, Triple p G E (g e) K E') : Triple p G I (m.handle g) K E' := by
  intro s x t w es w' hrun hserves hw
  rcases runs_handle_iff.1 hrun with ⟨a, rfl, h'⟩ | ⟨l₁, l₂, e, u, hl, h₁, h₂⟩
  · obtain ⟨hG, hok, -⟩ := hm _ _ _ _ _ _ h' hserves hw
    exact ⟨hG, fun _ hb ↦ Except.ok.inj hb ▸ hok a rfl, fun e he ↦ absurd he (by simp)⟩
  · obtain ⟨es₁, es₂, v, rfl, rfl, rfl, hs₁, hs₂⟩ := hserves.of_exchange_append hl
    obtain ⟨hG₁, -, herror⟩ := hm _ _ _ _ _ _ h₁ hs₁ hw
    obtain ⟨hG₂, hpost⟩ := hg e _ _ _ _ _ _ h₂ hs₂ (herror e rfl)
    exact ⟨List.forall_mem_append.2 ⟨hG₁, hG₂⟩, hpost⟩

/-- **Programs of which only the requests matter.** When the requests that a program sends keep `I`
and meet `G`, so does the program. -/
theorem triple_of_sends {P : Q → Prop} (hm : Sends P m)
    (hP : ∀ w q r done w', I w → P q → p.serves w q r done w' → G ⟨w, q, r, done⟩ ∧ I w') :
    Triple p G I m (fun _ ↦ I) I := by
  intro s x t w es w' hrun hserves hw
  have hsent : ∀ e ∈ es, P e.call := fun e he ↦
    hm _ _ _ _ hrun e.exchange (List.mem_map_of_mem he)
  obtain ⟨hG, hend⟩ := hserves.invariant (G := G) hw fun e he u hI hserve ↦
    hP e.before e.call e.reply e.executed u hI (hsent e he) hserve
  exact ⟨hG, fun _ _ ↦ hend, fun _ _ ↦ hend⟩

end Triples
