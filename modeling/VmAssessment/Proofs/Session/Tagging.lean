/-
VmAssessment/Proofs/Session/Tagging.lean

What the tags of a session are good for.  Every accepted start or stop counts
the generation up by one, nothing else moves it, and the command that the agent
is told then carries the new count.  So the commands of a whole run are tagged
with some of the counts that follow the first one, in their order and none of
them twice (`countP_told_le`), and until the counts come round again each is
carried by one command at most.

That a generation never meets itself on the way is arithmetic of the machine
word (`nodup_following`); what a step adds to the run is read off its turn
(`countP_effects_le`).
-/
import Mathlib.Data.List.Nodup
import VmAssessment.Proofs.Session.Turn

namespace VmAssessment

namespace Generation

variable {g g' : Generation} {n : Nat}

/-- The generations that the next so many accepted commands open. -/
def following (g : Generation) : Nat → List Generation
  | 0 => []
  | n + 1 => g.next :: g.next.following n

theorem count_of_mem_following (h : g' ∈ g.following n) :
    ∃ i, 0 < i ∧ i ≤ n ∧ g'.count = g.count + UInt64.ofNat i := by
  induction n generalizing g with
  | zero => cases h
  | succ n ih =>
      rcases List.mem_cons.1 h with rfl | h
      · exact ⟨1, by omega, by omega, rfl⟩
      · obtain ⟨i, hpos, hle, hcount⟩ := ih h
        refine ⟨i + 1, by omega, by omega, ?_⟩
        rw [hcount, next, UInt64.ofNat_add, UInt64.add_assoc, UInt64.add_comm 1]
        rfl

/-- A generation comes round again after as many commands as a word counts. -/
theorem not_mem_following (h : n < UInt64.size) : g ∉ g.following n := by
  intro hmem
  obtain ⟨i, hpos, hle, hcount⟩ := count_of_mem_following hmem
  have hzero : UInt64.ofNat i = 0 := by
    have hself : g.count + UInt64.ofNat i = g.count + 0 := by rw [← hcount, UInt64.add_zero]
    exact (UInt64.add_right_inj _).1 hself
  have hi : (UInt64.ofNat i).toNat = i := UInt64.toNat_ofNat_of_lt' (by omega)
  rw [hzero, UInt64.toNat_zero] at hi
  omega

theorem nodup_following (h : n < UInt64.size) : (g.following n).Nodup := by
  induction n generalizing g with
  | zero => exact List.nodup_nil
  | succ n ih => exact List.nodup_cons.2 ⟨not_mem_following (by omega), ih (by omega)⟩

theorem next_ne (g : Generation) : g.next ≠ g := fun h =>
  not_mem_following (g := g) (n := 1) (by decide) (by rw [following, h]; exact List.mem_cons_self)

end Generation

namespace Session

variable {s : Session} {e : Event}

/-! ### Runs -/

/-- What a run of events asks for, in its order. -/
def told (s : Session) : List Event → List Effect
  | [] => []
  | e :: rest => (s.step e).effects ++ (s.step e).next.told rest

/-- The event is a command, and is accepted. -/
def Accepts (s : Session) (e : Event) : Prop :=
  e.isCommand = true ∧ (s.step e).outcome = .applied

instance (s : Session) (e : Event) : Decidable (s.Accepts e) :=
  inferInstanceAs (Decidable (_ ∧ _))

/-- How many commands of a run are accepted. -/
def accepted (s : Session) : List Event → Nat
  | [] => 0
  | e :: rest => (if s.Accepts e then 1 else 0) + (s.step e).next.accepted rest

/-- The effect tells the agent a command of this generation. -/
def Effect.commands (g : Generation) (f : Effect) : Bool := f.command?.any (·.2 = g)

/-! ### One step -/

/-- The generation is counted up by an accepted command, and by nothing
else. -/
theorem generation_step (s : Session) (e : Event) :
    (s.step e).next.generation = if s.Accepts e then s.generation.next else s.generation := by
  rcases (s.turn_step e).opens_or_stays with ⟨hc, ho, hg, -⟩ | ⟨hc, hg, -⟩
  · rw [hg, if_pos ⟨hc, ho⟩]
  · rw [hg, if_neg fun h => hc h.1 h.2]

/-- The commands of a generation are its starts and its stops. -/
theorem countP_commands (es : List Effect) (g : Generation) :
    es.countP (Effect.commands g)
      = es.countP (·.command? = some (.start, g)) + es.countP (·.command? = some (.stop, g)) := by
  induction es with
  | nil => rfl
  | cons f rest ih =>
      have hone : (if Effect.commands g f = true then 1 else 0)
          = (if f.command? = some (.start, g) then 1 else 0)
            + (if f.command? = some (.stop, g) then 1 else 0) := by
        cases f <;> simp [Effect.commands, Effect.command?]
      simp only [List.countP_cons, decide_eq_true_eq, ih, hone]
      exact Nat.add_add_add_comm ..

/-- An accepted command tells the agent at most one command, of the generation
that it opens; nothing else tells it any. -/
theorem countP_effects_le (s : Session) (e : Event) (g : Generation) :
    (s.step e).effects.countP (Effect.commands g)
      ≤ if s.Accepts e then [s.generation.next].count g else 0 := by
  rcases (s.turn_step e).opens_or_stays with ⟨hc, ho, -, htag, hone⟩ | ⟨hc, -, hnone⟩
  · rw [if_pos ⟨hc, ho⟩]
    by_cases hg : g = s.generation.next
    · rw [hg, countP_commands, List.count_singleton_self]
      exact hone
    · have hother : ∀ f ∈ (s.step e).effects, ¬ Effect.commands g f = true := by
        intro f hf hfg
        obtain ⟨⟨k, g'⟩, hk, hkg⟩ := (Option.any_eq_true ..).1 hfg
        exact hg ((of_decide_eq_true hkg).symm.trans (htag f hf k g' hk))
      rw [List.countP_eq_zero.2 hother]
      exact Nat.zero_le _
  · have hother : ∀ f ∈ (s.step e).effects, ¬ Effect.commands g f = true := fun f hf => by
      simp [Effect.commands, hnone f hf]
    rw [List.countP_eq_zero.2 hother]
    exact Nat.zero_le _

/-! ### A run -/

/-- **The commands of a run are tagged with the generations that follow**, as
many as are accepted. -/
theorem countP_told_le (s : Session) (es : List Event) (g : Generation) :
    (s.told es).countP (Effect.commands g) ≤ (s.generation.following (s.accepted es)).count g := by
  induction es generalizing s with
  | nil => exact Nat.le_refl 0
  | cons e rest ih =>
      have hstep := s.countP_effects_le e g
      have hrest := ih (s.step e).next
      rw [generation_step] at hrest
      rw [told, List.countP_append, accepted]
      by_cases ha : s.Accepts e
      · rw [if_pos ha] at hstep hrest ⊢
        rw [Nat.add_comm 1, Generation.following, ← List.singleton_append, List.count_append]
        omega
      · rw [if_neg ha] at hstep hrest ⊢
        rw [Nat.zero_add]
        omega

/-- Of what a list holds once, there are no two. -/
theorem eq_of_countP_le_one {α : Type} {p : α → Bool} {l : List α} (h : l.countP p ≤ 1) {a b : α}
    (ha : a ∈ l) (hb : b ∈ l) (hpa : p a = true) (hpb : p b = true) : a = b := by
  have ha' : a ∈ l.filter p := List.mem_filter.2 ⟨ha, hpa⟩
  have hb' : b ∈ l.filter p := List.mem_filter.2 ⟨hb, hpb⟩
  rw [List.countP_eq_length_filter] at h
  match hl : l.filter p, ha', hb' with
  | [x], ha', hb' => rw [List.mem_singleton.1 ha', List.mem_singleton.1 hb']
  | x :: y :: rest, _, _ =>
      rw [hl] at h
      simp at h

/-- **A step is taken as a whole, and its tag says which.**  A step that is not
applied changes nothing and asks for nothing.  Whatever a step asks for carries
the generation of the session after it.  The generation moves on by one at an
accepted command, and at nothing else.  So in a run with fewer accepted commands
than a word counts, a generation is carried by at most one of the commands that
the agent is told: the generation of an answer says which it is the answer
to. -/
theorem generation_identifies_command (s : Session) (e : Event) :
    ((s.step e).outcome ≠ .applied → (s.step e).next = s ∧ (s.step e).effects = []) ∧
      (∀ f ∈ (s.step e).effects, ∀ g, f.tag? = some g → g = (s.step e).next.generation) ∧
      ((s.step e).next.generation ≠ s.generation ↔ s.Accepts e) ∧
      (s.Accepts e → (s.step e).next.generation.count = s.generation.count + 1) ∧
      ∀ es, s.accepted es < UInt64.size → ∀ g,
        (s.told es).countP (Effect.commands g) ≤ 1 ∧
          ∀ f ∈ s.told es, ∀ f' ∈ s.told es,
            Effect.commands g f = true → Effect.commands g f' = true → f = f' := by
  have hgen := s.generation_step e
  refine ⟨fun ho => ?_, s.tagged_step e, ?_, fun ha => ?_, fun es hes g => ?_⟩
  · obtain ⟨o, ho⟩ := exists_unchanged_of_not_applied ho
    rw [ho]
    exact ⟨rfl, rfl⟩
  · rw [hgen]
    split
    · exact iff_of_true s.generation.next_ne ‹_›
    · exact iff_of_false (fun h => h rfl) ‹_›
  · rw [hgen, if_pos ha]
    rfl
  · have hone : (s.told es).countP (Effect.commands g) ≤ 1 :=
      Nat.le_trans (s.countP_told_le es g)
        (List.nodup_iff_count_le_one.1 (Generation.nodup_following hes) g)
    exact ⟨hone, fun f hf f' hf' => eq_of_countP_le_one hone hf hf'⟩

/-- A start that failed is made again, and then stopped: an answer tagged with
the second generation is to the second start.  The stop of a session that was
never started changes nothing. -/
theorem second_start_identified :
    let s : Session := {}
    let c : Credentials := ⟨"http://h", "u", "p"⟩
    let es : List Event := [.start c, .startFailed ⟨1⟩ "refused", .start c, .stop]
    (s.step .stop).outcome ≠ .applied ∧ (s.step .stop).next = s ∧ (s.step .stop).effects = [] ∧
      s.Accepts (.start c) ∧ (s.step (.start c)).next.generation.count = s.generation.count + 1 ∧
      s.accepted es = 3 ∧ s.accepted es < UInt64.size ∧ .connect ⟨2⟩ c ∈ s.told es ∧
      ∀ f ∈ s.told es, Effect.commands ⟨2⟩ f = true → f = .connect ⟨2⟩ c := by
  intro s c es
  have hrefused : (s.step .stop).outcome ≠ .applied := by decide +kernel
  have haccepts : s.Accepts (.start c) := by decide +kernel
  have hthree : s.accepted es = 3 := by decide +kernel
  have hfew : s.accepted es < UInt64.size := by rw [hthree]; decide
  have htold : .connect ⟨2⟩ c ∈ s.told es := by decide +kernel
  obtain ⟨hunchanged, -⟩ := s.generation_identifies_command .stop
  obtain ⟨-, -, -, hcount, hruns⟩ := s.generation_identifies_command (.start c)
  obtain ⟨-, hunique⟩ := hruns es hfew ⟨2⟩
  exact ⟨hrefused, (hunchanged hrefused).1, (hunchanged hrefused).2, haccepts, hcount haccepts,
    hthree, hfew, htold, fun f hf hg => hunique f hf _ htold hg rfl⟩

end Session

end VmAssessment
