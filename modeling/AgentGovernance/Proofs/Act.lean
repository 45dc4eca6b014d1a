-- SUMMARY: How acts end, and when an act looks like another, with a rule for each way to build acts.
import AgentGovernance.Act

/-!
# How acts end

What an act does to its world and what comes of it can be said without the journal. Every act ends
in exactly one way, and each combinator of acts has a rule that says how it ends if its parts do.

An act on a larger world may look like an act on a smaller one: on worlds that look the same they
end the same way, in worlds that look the same, and write the same events. More generally two acts
may mirror each other: in related worlds they end alike, in related worlds. Two acts that do nothing
but log may log the same and differ in their values only.
-/

namespace AgentGovernance

/-- A journal, with what a view shows of its world. -/
def Journal.seen {σ τ : Type} (view : σ → τ) (j : Journal σ) : Journal τ :=
  { world := view j.world, events := j.events }

namespace Act

variable {σ τ α β : Type} {j : Journal σ} {w w' : σ} {e : GovernanceError}

/-- The act, performed on the journal, ends with the outcome and leaves the world. -/
def Ends (act : Act σ α) (j : Journal σ) (outcome : Except GovernanceError α) (w : σ) : Prop :=
  match act j with
  | .ok a k => outcome = .ok a ∧ k.world = w
  | .error e k => outcome = .error e ∧ k.world = w

/-! ## Every act ends in one way -/

theorem Ends.exists (act : Act σ α) (j : Journal σ) : ∃ o w, Ends act j o w := by
  cases h : act j with
  | ok a k => exact ⟨.ok a, k.world, by simp [Ends, h]⟩
  | error e k => exact ⟨.error e, k.world, by simp [Ends, h]⟩

theorem Ends.unique {act : Act σ α} {o o' : Except GovernanceError α}
    (h : Ends act j o w) (h' : Ends act j o' w') : o = o' ∧ w = w' := by
  unfold Ends at h h'
  cases hact : act j with
  | ok a k =>
    rw [hact] at h h'
    exact ⟨h.1.trans h'.1.symm, h.2.symm.trans h'.2⟩
  | error e k =>
    rw [hact] at h h'
    exact ⟨h.1.trans h'.1.symm, h.2.symm.trans h'.2⟩

theorem Ends.run {act : Act σ α} {o : Except GovernanceError α} (h : Ends act { world := w } o w') :
    (act.run w).outcome = o ∧ (act.run w).world = w' := by
  unfold Ends at h
  unfold Act.run
  cases hact : act { world := w } with
  | ok a k =>
    rw [hact] at h
    exact ⟨h.1.symm, h.2⟩
  | error e k =>
    rw [hact] at h
    exact ⟨h.1.symm, h.2⟩

/-! ## Rules -/

theorem ends_pure (a : α) : Ends (pure a) j (.ok a) j.world := ⟨rfl, rfl⟩

theorem ends_log (event : LogEvent) : Ends (log event) j (.ok ()) j.world := ⟨rfl, rfl⟩

theorem ends_fail : Ends (fail e : Act σ α) j (.error e) j.world := ⟨rfl, rfl⟩

theorem ends_ofExcept (o : Except GovernanceError α) : Ends (ofExcept o) j o j.world := by
  cases o with
  | ok a => exact ⟨rfl, rfl⟩
  | error e => exact ends_fail

theorem ends_world : Ends world j (.ok j.world) j.world := ⟨rfl, rfl⟩

theorem ends_setWorld : Ends (setWorld w) j (.ok ()) w := ⟨rfl, rfl⟩

theorem Ends.of_ok {x : Act σ α} {a : α} {k : Journal σ} (h : x j = .ok a k) :
    Ends x j (.ok a) k.world := by
  unfold Ends
  rw [h]
  exact ⟨rfl, rfl⟩

theorem Ends.ok {x : Act σ α} {a : α} (hx : Ends x j (.ok a) w) :
    ∃ k : Journal σ, x j = .ok a k ∧ k.world = w := by
  unfold Ends at hx
  cases hact : x j with
  | ok b k =>
    rw [hact] at hx
    obtain ⟨hb, hk⟩ := hx
    cases hb
    exact ⟨k, rfl, hk⟩
  | error e k =>
    rw [hact] at hx
    cases hx.1

theorem bind_of_ok {x : Act σ α} {a : α} {k : Journal σ} (h : x j = .ok a k) (f : α → Act σ β) :
    (x >>= f) j = f a k := by
  change EStateM.bind x f j = f a k
  simp only [EStateM.bind, h]

theorem bind_of_error {x : Act σ α} {k : Journal σ} (h : x j = .error e k) (f : α → Act σ β) :
    (x >>= f) j = .error e k := by
  change EStateM.bind x f j = .error e k
  simp only [EStateM.bind, h]

theorem attempt_of_ok {x : Act σ α} {a : α} {k : Journal σ} (h : x j = .ok a k) :
    Act.attempt x j = .ok (.ok a) k := by
  simp only [Act.attempt, h]

theorem attempt_of_error {x : Act σ α} {k : Journal σ} (h : x j = .error e k) :
    Act.attempt x j = .ok (.error e) k := by
  simp only [Act.attempt, h]

/-- What follows an act that succeeds is performed on the journal that the act leaves. -/
theorem Ends.bind_eq {x : Act σ α} {a : α} (hx : Ends x j (.ok a) w) :
    ∃ k : Journal σ, k.world = w ∧ ∀ {γ : Type} (f : α → Act σ γ), (x >>= f) j = f a k := by
  obtain ⟨k, hact, hk⟩ := hx.ok
  exact ⟨k, hk, fun f => bind_of_ok hact f⟩

theorem Ends.of_eq {x y : Act σ α} {k : Journal σ} {o : Except GovernanceError α}
    (hy : Ends y k o w) (h : x j = y k) : Ends x j o w := by
  unfold Ends at hy ⊢
  rwa [h]

/-- An act goes on in the world that its first part left. -/
theorem Ends.bind {x : Act σ α} {f : α → Act σ β} {a : α} {o : Except GovernanceError β}
    (hx : Ends x j (.ok a) w) (hf : ∀ k : Journal σ, k.world = w → Ends (f a) k o w') :
    Ends (x >>= f) j o w' := by
  obtain ⟨k, hk, hgo⟩ := hx.bind_eq
  exact (hf k hk).of_eq (hgo f)

/-- A failing first part is all that there is. -/
theorem Ends.bind_error {x : Act σ α} {f : α → Act σ β} (hx : Ends x j (.error e) w) :
    Ends (x >>= f) j (.error e) w := by
  unfold Ends at hx
  cases hact : x j with
  | ok b k =>
    rw [hact] at hx
    cases hx.1
  | error e' k =>
    rw [hact] at hx
    obtain ⟨he, hk⟩ := hx
    cases he
    unfold Ends
    rw [bind_of_error hact f]
    exact ⟨rfl, hk⟩

theorem ofExcept_ok_bind (a : α) (f : α → Act σ β) : ofExcept (.ok a) >>= f = f a := rfl

/-- Looking at the world first changes nothing. -/
theorem Ends.after_world {f : σ → Act σ β} {o : Except GovernanceError β}
    (h : Ends (f j.world) j o w) : Ends (world >>= f) j o w := h

theorem Ends.of_after_world {f : σ → Act σ β} {o : Except GovernanceError β}
    (h : Ends (world >>= f) j o w) : Ends (f j.world) j o w := h

theorem Ends.map {x : Act σ α} {o : Except GovernanceError α} (f : α → β) (hx : Ends x j o w) :
    Ends (f <$> x) j (o.map f) w := by
  unfold Ends at hx ⊢
  cases hact : x j with
  | ok a k =>
    rw [hact] at hx
    obtain ⟨rfl, hk⟩ := hx
    simpa only [Functor.map, EStateM.map, hact, Except.map, true_and] using hk
  | error e k =>
    rw [hact] at hx
    obtain ⟨rfl, hk⟩ := hx
    simpa only [Functor.map, EStateM.map, hact, Except.map, true_and] using hk

/-- An act whose value is replaced does what it did. -/
theorem run_then_pure (x : Act σ α) (b : β) (w : σ) :
    ((x >>= fun _ => pure b).run w).outcome = (x.run w).outcome.map (fun _ => b) ∧
      ((x >>= fun _ => pure b).run w).world = (x.run w).world := by
  unfold Act.run
  cases h : x { world := w } with
  | ok a k =>
    rw [bind_of_ok h]
    exact ⟨rfl, rfl⟩
  | error e k =>
    rw [bind_of_error h]
    exact ⟨rfl, rfl⟩

/-- Acts that change nothing change nothing one after another. -/
theorem ends_forM {xs : List α} {f : α → Act σ Unit}
    (h : ∀ x (k : Journal σ), Ends (f x) k (.ok ()) k.world) :
    Ends (xs.forM f) j (.ok ()) j.world := by
  induction xs generalizing j with
  | nil => exact ends_pure ()
  | cons x xs ih =>
    refine Ends.bind (h x j) ?_
    intro k hk
    exact hk ▸ ih

theorem ends_log_each (events : List LogEvent) : Ends (events.forM log) j (.ok ()) j.world :=
  ends_forM fun event _ => ends_log event

theorem Ends.attempt {x : Act σ α} {o : Except GovernanceError α} (hx : Ends x j o w) :
    Ends (Act.attempt x) j (.ok o) w := by
  unfold Ends at hx ⊢
  cases hact : x j with
  | ok a k =>
    rw [hact] at hx
    simpa only [Act.attempt, hact, Except.ok.injEq] using hx
  | error e k =>
    rw [hact] at hx
    simpa only [Act.attempt, hact, Except.ok.injEq] using hx

/-- An act on a part of the world leaves the other parts alone. -/
theorem Ends.onPart {get : σ → τ} {set : τ → σ → σ} {x : Act τ α} {o : Except GovernanceError α}
    {t : τ} (hx : Ends x { world := get j.world, events := j.events } o t) :
    Ends (Act.onPart get set x) j o (set t j.world) := by
  unfold Ends at hx ⊢
  cases hact : x { world := get j.world, events := j.events } with
  | ok a k =>
    rw [hact] at hx
    obtain ⟨rfl, rfl⟩ := hx
    simp only [Act.onPart, hact, and_self]
  | error e k =>
    rw [hact] at hx
    obtain ⟨rfl, rfl⟩ := hx
    simp only [Act.onPart, hact, and_self]

theorem ends_of_onPart {get : σ → τ} {set : τ → σ → σ} {x : Act τ α} {o : Except GovernanceError α}
    (h : Ends (Act.onPart get set x) j o w) :
    ∃ t, Ends x { world := get j.world, events := j.events } o t ∧ w = set t j.world := by
  obtain ⟨o', t, hx⟩ := Ends.exists x { world := get j.world, events := j.events }
  obtain ⟨rfl, rfl⟩ := h.unique (Ends.onPart hx)
  exact ⟨t, hx, rfl⟩

/-! ## Acts that maintain a condition -/

/-- However the act ends, the condition on the world outlasts it. -/
def Maintains (P : σ → Prop) (x : Act σ α) : Prop :=
  ∀ (j : Journal σ) o w, P j.world → Ends x j o w → P w

section Maintains

variable {P : σ → Prop} {x : Act σ α}

theorem maintains_pure (a : α) : Maintains P (pure a) := by
  intro j o w hj h
  obtain ⟨-, rfl⟩ := h.unique (ends_pure a)
  exact hj

theorem Maintains.bind {f : α → Act σ β} (hx : Maintains P x) (hf : ∀ a, Maintains P (f a)) :
    Maintains P (x >>= f) := by
  intro j o w hj h
  obtain ⟨o', w', hfirst⟩ := Ends.exists x j
  have hkept := hx j o' w' hj hfirst
  cases o' with
  | error e =>
    obtain ⟨-, rfl⟩ := h.unique hfirst.bind_error
    exact hkept
  | ok a =>
    obtain ⟨k, rfl, hgo⟩ := hfirst.bind_eq
    obtain ⟨o'', w'', hrest⟩ := Ends.exists (f a) k
    obtain ⟨-, rfl⟩ := h.unique (hrest.of_eq (hgo f))
    exact hf a k o'' _ hkept hrest

theorem Maintains.attempt (hx : Maintains P x) : Maintains P (Act.attempt x) := by
  intro j o w hj h
  obtain ⟨o', w', hfirst⟩ := Ends.exists x j
  obtain ⟨-, rfl⟩ := h.unique hfirst.attempt
  exact hx j o' _ hj hfirst

/-- An act that leaves the world alone maintains any condition. -/
theorem maintains_of_ends (hx : ∀ j : Journal σ, ∃ o, Ends x j o j.world) : Maintains P x := by
  intro j o w hj h
  obtain ⟨o', hends⟩ := hx j
  obtain ⟨-, rfl⟩ := h.unique hends
  exact hj

theorem maintains_log (event : LogEvent) : Maintains P (log event) :=
  maintains_of_ends fun _ => ⟨_, ends_log event⟩

theorem maintains_fail : Maintains P (fail e : Act σ α) :=
  maintains_of_ends fun _ => ⟨_, ends_fail⟩

theorem maintains_ofExcept (o : Except GovernanceError α) : Maintains P (ofExcept o) :=
  maintains_of_ends fun _ => ⟨_, ends_ofExcept o⟩

theorem maintains_world : Maintains P (world : Act σ σ) :=
  maintains_of_ends fun _ => ⟨_, ends_world⟩

theorem maintains_forM {f : β → Act σ Unit} (h : ∀ b, Maintains P (f b)) (bs : List β) :
    Maintains P (bs.forM f) := by
  induction bs with
  | nil => exact maintains_pure ()
  | cons b bs ih => exact (h b).bind fun _ => ih

/-- An act on a part of the world maintains what follows from a condition on the part. -/
theorem Maintains.onPart {Q : τ → Prop} {get : σ → τ} {set : τ → σ → σ} {y : Act τ α}
    (hget : ∀ {w}, P w → Q (get w)) (hset : ∀ {t w}, P w → Q t → P (set t w))
    (hy : Maintains Q y) : Maintains P (Act.onPart get set y) := by
  intro j o w hj h
  obtain ⟨t, hends, rfl⟩ := ends_of_onPart h
  exact hset hj (hy _ o t (hget hj) hends)

/-- The condition on the world outlasts the act, and what the act yields meets a condition too. -/
def Upholds (P : σ → Prop) (x : Act σ α) (Q : α → Prop) : Prop :=
  ∀ (j : Journal σ) o w, P j.world → Ends x j o w → P w ∧ ∀ a, o = .ok a → Q a

variable {Q : α → Prop} {R : β → Prop}

theorem Maintains.upholds (hx : Maintains P x) : Upholds P x fun _ => True :=
  fun j o w hj h => ⟨hx j o w hj h, fun _ _ => trivial⟩

theorem upholds_pure {a : α} (h : Q a) : Upholds P (pure a) Q := by
  intro j o w hj hends
  obtain ⟨rfl, rfl⟩ := hends.unique (ends_pure a)
  exact ⟨hj, fun b hb => Except.ok.inj hb ▸ h⟩

theorem upholds_ofExcept {o : Except GovernanceError α} (h : ∀ a, o = .ok a → Q a) :
    Upholds P (ofExcept o) Q := by
  intro j o' w hj hends
  obtain ⟨rfl, rfl⟩ := hends.unique (ends_ofExcept o)
  exact ⟨hj, h⟩

theorem Upholds.bind {f : α → Act σ β} (hx : Upholds P x Q) (hf : ∀ a, Q a → Upholds P (f a) R) :
    Upholds P (x >>= f) R := by
  intro j o w hj h
  obtain ⟨o', w', hfirst⟩ := Ends.exists x j
  obtain ⟨hkept, hvalue⟩ := hx j o' w' hj hfirst
  cases o' with
  | error e =>
    obtain ⟨rfl, rfl⟩ := h.unique hfirst.bind_error
    exact ⟨hkept, nofun⟩
  | ok a =>
    obtain ⟨k, rfl, hgo⟩ := hfirst.bind_eq
    obtain ⟨o'', w'', hrest⟩ := Ends.exists (f a) k
    obtain ⟨rfl, rfl⟩ := h.unique (hrest.of_eq (hgo f))
    exact hf a (hvalue a rfl) k _ _ hkept hrest

/-- An act may rely on what the act before it yields. -/
theorem Upholds.maintains_bind {f : α → Act σ β} (hx : Upholds P x Q)
    (hf : ∀ a, Q a → Maintains P (f a)) : Maintains P (x >>= f) := by
  intro j o w hj h
  exact (hx.bind (fun a ha => (hf a ha).upholds) j o w hj h).1

theorem upholds_foldlM {f : α → β → Act σ α} (h : ∀ a b, Q a → Upholds P (f a b) Q) (bs : List β)
    {a : α} (ha : Q a) : Upholds P (bs.foldlM f a) Q := by
  induction bs generalizing a with
  | nil => exact upholds_pure ha
  | cons b bs ih =>
    rw [List.foldlM_cons]
    exact (h a b ha).bind fun _ ha' => ih ha'

end Maintains

/-! ## Acts that look the same -/

/-- Results agree: the same failure or related values, in journals that look the same. -/
inductive Agree (view : σ → τ) (R : α → β → Prop) :
    EStateM.Result GovernanceError (Journal σ) α →
    EStateM.Result GovernanceError (Journal τ) β → Prop
  | ok {a : α} {b : β} {k : Journal σ} (h : R a b) : Agree view R (.ok a k) (.ok b (k.seen view))
  | error {e : GovernanceError} {k : Journal σ} : Agree view R (.error e k) (.error e (k.seen view))

/-- Through the view the first act looks like the second one, and its values are related. -/
def LooksLike (view : σ → τ) (R : α → β → Prop) (x : Act σ α) (y : Act τ β) : Prop :=
  ∀ j : Journal σ, Agree view R (x j) (y (j.seen view))

section LooksLike

variable {γ δ σ' τ' : Type} {view : σ → τ} {R : α → β → Prop} {x : Act σ α} {y : Act τ β}

theorem looksLike_pure {a : α} {b : β} (h : R a b) : LooksLike view R (pure a) (pure b) :=
  fun _ => .ok h

theorem looksLike_log (event : LogEvent) : LooksLike view Eq (log event) (log event) :=
  fun j => .ok (k := { j with events := j.events.push event }) rfl

theorem looksLike_world : LooksLike view (fun w w' => view w = w') world world :=
  fun _ => .ok rfl

theorem looksLike_setWorld (w : σ) : LooksLike view Eq (setWorld w) (setWorld (view w)) :=
  fun j => .ok (k := { j with world := w }) rfl

theorem LooksLike.bind {S : γ → δ → Prop} {f : α → Act σ γ} {g : β → Act τ δ}
    (hx : LooksLike view R x y) (hf : ∀ a b, R a b → LooksLike view S (f a) (g b)) :
    LooksLike view S (x >>= f) (y >>= g) := by
  intro j
  change Agree view S (EStateM.bind x f j) (EStateM.bind y g (j.seen view))
  unfold EStateM.bind
  have hj := hx j
  revert hj
  generalize x j = big
  generalize y (j.seen view) = small
  rintro (h | _)
  · exact hf _ _ h _
  · exact .error

theorem LooksLike.attempt {y : Act τ α} (hx : LooksLike view Eq x y) :
    LooksLike view Eq (Act.attempt x) (Act.attempt y) := by
  intro j
  unfold Act.attempt
  have hj := hx j
  revert hj
  generalize x j = big
  generalize y (j.seen view) = small
  rintro (rfl | _)
  · exact .ok rfl
  · exact .ok rfl

/-- Acts on parts of two worlds look the same if the parts do. -/
theorem LooksLike.onPart {part : σ' → τ'} {get : σ → σ'} {set : σ' → σ → σ} {get' : τ → τ'}
    {set' : τ' → τ → τ} {x : Act σ' α} {y : Act τ' β} (hget : ∀ w, get' (view w) = part (get w))
    (hset : ∀ s w, set' (part s) (view w) = view (set s w)) (hx : LooksLike part R x y) :
    LooksLike view R (Act.onPart get set x) (Act.onPart get' set' y) := by
  intro j
  unfold Act.onPart
  have hj := hx { world := get j.world, events := j.events }
  simp only [Journal.seen, hget] at hj ⊢
  revert hj
  generalize x { world := get j.world, events := j.events } = big
  generalize y { world := part (get j.world), events := j.events } = small
  rintro (h | _)
  · simp only [Journal.seen, hset]
    exact .ok h
  · simp only [Journal.seen, hset]
    exact .error

theorem looksLike_forM {f : γ → Act σ Unit} {g : γ → Act τ Unit}
    (h : ∀ c, LooksLike view Eq (f c) (g c)) (cs : List γ) :
    LooksLike view Eq (cs.forM f) (cs.forM g) := by
  induction cs with
  | nil => exact looksLike_pure rfl
  | cons c cs ih =>
    refine (h c).bind ?_
    rintro _ _ rfl
    exact ih

/-- An act that succeeds looks like one that succeeds. -/
theorem LooksLike.ok {j k : Journal σ} {a : α} (hx : LooksLike view R x y) (h : x j = .ok a k) :
    ∃ b, R a b ∧ y (j.seen view) = .ok b (k.seen view) := by
  have hj := hx j
  rw [h] at hj
  generalize y (j.seen view) = small at hj
  cases hj with
  | ok hab => exact ⟨_, hab, rfl⟩

end LooksLike

/-! ## Acts in worlds that are alike -/

/-- Outcomes agree: the same failure or related values. -/
inductive SameOutcome (R : α → β → Prop) :
    Except GovernanceError α → Except GovernanceError β → Prop
  | ok {a : α} {b : β} (h : R a b) : SameOutcome R (.ok a) (.ok b)
  | error {e : GovernanceError} : SameOutcome R (.error e) (.error e)

/-- Results agree: the same failure or related values, in related worlds. -/
inductive Mirrored (W : σ → τ → Prop) (R : α → β → Prop) :
    EStateM.Result GovernanceError (Journal σ) α →
    EStateM.Result GovernanceError (Journal τ) β → Prop
  | ok {a : α} {b : β} {j : Journal σ} {k : Journal τ} (h : R a b) (hw : W j.world k.world) :
    Mirrored W R (.ok a j) (.ok b k)
  | error {e : GovernanceError} {j : Journal σ} {k : Journal τ} (hw : W j.world k.world) :
    Mirrored W R (.error e j) (.error e k)

/-- In related worlds the acts end alike, whatever is logged: in related worlds, and with the same
failure or related values. -/
def Mirrors (W : σ → τ → Prop) (R : α → β → Prop) (x : Act σ α) (y : Act τ β) : Prop :=
  ∀ j k, W j.world k.world → Mirrored W R (x j) (y k)

section Mirrors

variable {γ δ σ' τ' : Type} {W : σ → τ → Prop} {R : α → β → Prop} {x : Act σ α} {y : Act τ β}

theorem mirrors_pure {a : α} {b : β} (h : R a b) : Mirrors W R (pure a) (pure b) :=
  fun _ _ hw => .ok h hw

theorem mirrors_log (event event' : LogEvent) : Mirrors W Eq (log event) (log event') :=
  fun _ _ hw => .ok rfl hw

theorem mirrors_world : Mirrors W W world world := fun _ _ hw => .ok hw hw

theorem mirrors_setWorld {w : σ} {w' : τ} (h : W w w') : Mirrors W Eq (setWorld w) (setWorld w') :=
  fun _ _ _ => .ok rfl h

theorem Mirrors.bind {S : γ → δ → Prop} {f : α → Act σ γ} {g : β → Act τ δ} (hx : Mirrors W R x y)
    (hf : ∀ a b, R a b → Mirrors W S (f a) (g b)) : Mirrors W S (x >>= f) (y >>= g) := by
  intro j k hw
  change Mirrored W S (EStateM.bind x f j) (EStateM.bind y g k)
  unfold EStateM.bind
  have hj := hx j k hw
  revert hj
  generalize x j = first
  generalize y k = second
  rintro (⟨hab, hw⟩ | hw)
  · exact hf _ _ hab _ _ hw
  · exact .error hw

theorem Mirrors.attempt (hx : Mirrors W R x y) :
    Mirrors W (SameOutcome R) (Act.attempt x) (Act.attempt y) := by
  intro j k hw
  unfold Act.attempt
  have hj := hx j k hw
  revert hj
  generalize x j = first
  generalize y k = second
  rintro (⟨hab, hw⟩ | hw)
  · exact .ok (.ok hab) hw
  · exact .ok .error hw

/-- Acts on related parts of related worlds. -/
theorem Mirrors.onPart {V : σ' → τ' → Prop} {get : σ → σ'} {set : σ' → σ → σ} {get' : τ → τ'}
    {set' : τ' → τ → τ} {x : Act σ' α} {y : Act τ' β}
    (hget : ∀ {w w'}, W w w' → V (get w) (get' w'))
    (hset : ∀ {s s' w w'}, W w w' → V s s' → W (set s w) (set' s' w')) (hx : Mirrors V R x y) :
    Mirrors W R (Act.onPart get set x) (Act.onPart get' set' y) := by
  intro j k hw
  unfold Act.onPart
  have hj := hx ⟨get j.world, j.events⟩ ⟨get' k.world, k.events⟩ (hget hw)
  revert hj
  generalize x ⟨get j.world, j.events⟩ = first
  generalize y ⟨get' k.world, k.events⟩ = second
  rintro (⟨hab, hv⟩ | hv)
  · exact .ok hab (hset hw hv)
  · exact .error (hset hw hv)

/-- An act that succeeds is mirrored by one that succeeds. -/
theorem Mirrors.ends_ok (hx : Mirrors W R x y) {j : Journal σ} {k : Journal τ} {a : α} {w : σ}
    (hw : W j.world k.world) (h : Ends x j (.ok a) w) :
    ∃ b w', R a b ∧ W w w' ∧ Ends y k (.ok b) w' := by
  obtain ⟨j', hx', rfl⟩ := h.ok
  have hj := hx j k hw
  rw [hx'] at hj
  generalize hy : y k = second at hj
  cases hj with
  | ok hab hw => exact ⟨_, _, hab, hw, .of_ok hy⟩

end Mirrors

/-! ## Acts that only log -/

/-- Results in the given world agree: the same failure or related values, and the same events. -/
inductive Logged (w : σ) (R : α → β → Prop) :
    EStateM.Result GovernanceError (Journal σ) α →
    EStateM.Result GovernanceError (Journal σ) β → Prop
  | ok {a : α} {b : β} {events : Array LogEvent} (h : R a b) :
    Logged w R (.ok a ⟨w, events⟩) (.ok b ⟨w, events⟩)
  | error {e : GovernanceError} {events : Array LogEvent} :
    Logged w R (.error e ⟨w, events⟩) (.error e ⟨w, events⟩)

/-- Neither act changes the world, both log the same, and their values are related. -/
def LogsLike (R : α → β → Prop) (x : Act σ α) (y : Act σ β) : Prop :=
  ∀ j : Journal σ, Logged j.world R (x j) (y j)

section LogsLike

variable {γ δ : Type} {R : α → β → Prop} {x : Act σ α} {y : Act σ β}

theorem logsLike_pure {a : α} {b : β} (h : R a b) :
    LogsLike R (pure a : Act σ α) (pure b : Act σ β) :=
  fun _ => .ok h

theorem logsLike_log (event : LogEvent) :
    LogsLike Eq (log event : Act σ Unit) (log event : Act σ Unit) :=
  fun _ => .ok rfl

theorem logsLike_fail (e : GovernanceError) :
    LogsLike R (fail e : Act σ α) (fail e : Act σ β) :=
  fun _ => .error

theorem LogsLike.bind {S : γ → δ → Prop} {f : α → Act σ γ} {g : β → Act σ δ}
    (hx : LogsLike R x y) (hf : ∀ a b, R a b → LogsLike S (f a) (g b)) :
    LogsLike S (x >>= f) (y >>= g) := by
  intro j
  change Logged j.world S (EStateM.bind x f j) (EStateM.bind y g j)
  unfold EStateM.bind
  have hj := hx j
  revert hj
  generalize x j = first
  generalize y j = second
  rintro (@⟨_, _, events, h⟩ | _)
  · exact hf _ _ h ⟨j.world, events⟩
  · exact .error

/-- Acts that follow acts which log the same need to agree in the world that they started in only. -/
theorem LogsLike.bind_eq {f : α → Act σ γ} {g : β → Act σ γ} (hx : LogsLike R x y)
    (hf : ∀ a b events, R a b → f a ⟨j.world, events⟩ = g b ⟨j.world, events⟩) :
    (x >>= f) j = (y >>= g) j := by
  change EStateM.bind x f j = EStateM.bind y g j
  unfold EStateM.bind
  have hj := hx j
  revert hj
  generalize x j = first
  generalize y j = second
  rintro (@⟨a, b, events, h⟩ | _)
  · exact hf a b events h
  · rfl

theorem logsLike_log_each (events : List LogEvent) :
    LogsLike Eq (events.forM log : Act σ Unit) (events.forM log : Act σ Unit) := by
  induction events with
  | nil => exact logsLike_pure rfl
  | cons event events ih =>
    refine (logsLike_log event).bind ?_
    rintro _ _ rfl
    exact ih

theorem logsLike_foldlM {f : α → γ → Act σ α} {g : β → γ → Act σ β}
    (h : ∀ a b c, R a b → LogsLike R (f a c) (g b c)) (cs : List γ) {a : α} {b : β} (hab : R a b) :
    LogsLike R (cs.foldlM f a) (cs.foldlM g b) := by
  induction cs generalizing a b with
  | nil => exact logsLike_pure hab
  | cons c cs ih =>
    rw [List.foldlM_cons, List.foldlM_cons]
    refine (h a b c hab).bind ?_
    intro a' b' hab'
    exact ih hab'

end LogsLike

end Act

end AgentGovernance
