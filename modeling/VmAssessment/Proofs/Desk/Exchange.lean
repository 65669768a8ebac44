/-
VmAssessment/Proofs/Desk/Exchange.lean

The exchange with an agent of prepared replies is one way for the desk to be
among its requests: whatever it comes to, and in whatever order it is told to
act, to let time pass and to deliver, its desk is that of a reachable
situation (`Exchange.Course.reachable`).  So what is shown of all reachable
situations is shown of every exchange.

The two are compared by their open ends (`Exchange.Accounts`): each answer on
its way is to a request that is open, in the same order, or it is the report
of a poller that was started at some time.
-/
import VmAssessment.Dispatch.Exchange
import VmAssessment.Proofs.Desk.Situation

namespace VmAssessment

/-! ### The pollers that were started -/

namespace Desk

/-- The generations for which pollers were started, also those that are
cancelled by now. -/
def started (d : Desk) : List Generation := d.pollers.map (·.generation)

theorem started_cancel (d : Desk) : d.cancel.started = d.started := by
  unfold cancel started
  split
  · refine List.ext_getElem? fun i => ?_
    simp only [List.getElem?_map, List.getElem?_modify]
    split <;> cases d.pollers[i]? <;> rfl
  · rfl

theorem started_perform (d : Desk) (e : Session.Effect) : d.started ⊆ (d.perform e).1.started := by
  cases e with
  | startPolling g =>
      intro g' hg'
      rw [← started_cancel] at hg'
      simp only [perform, watch, started, List.map_append]
      exact List.mem_append_left _ hg'
  | stopPolling => exact fun g hg => d.started_cancel.symm ▸ hg
  | _ => exact fun g hg => hg

theorem started_performAll (es : List Session.Effect) (d : Desk) :
    d.started ⊆ (d.performAll es).1.started := by
  induction es generalizing d with
  | nil => exact fun g hg => hg
  | cons e rest ih => exact fun g hg => ih _ (d.started_perform e hg)

theorem started_handle (d : Desk) (a : Action) : d.started ⊆ (d.handle a).1.started := by
  rw [handle_eq]
  exact started_performAll _ { d with console := (d.console.handle a).1 }

/-- Only the effect that asks for it starts a poller. -/
theorem mem_started_perform {d : Desk} {e : Session.Effect} {g : Generation}
    (h : g ∈ (d.perform e).1.started) : g ∈ d.started ∨ e = .startPolling g := by
  cases e with
  | startPolling g' =>
      simp only [perform, watch, started, List.map_append, List.mem_append] at h
      rcases h with h | h
      · exact .inl (d.started_cancel ▸ h)
      · obtain rfl := List.mem_singleton.1 h
        exact .inr rfl
  | stopPolling => exact .inl (d.started_cancel ▸ h)
  | _ => exact .inl h

theorem mem_started_performAll {es : List Session.Effect} {d : Desk} {g : Generation}
    (h : g ∈ (d.performAll es).1.started) : g ∈ d.started ∨ .startPolling g ∈ es := by
  induction es generalizing d with
  | nil => exact .inl h
  | cons e rest ih =>
      rcases ih h with hd | hrest
      · rcases mem_started_perform hd with hd | rfl
        · exact .inl hd
        · exact .inr List.mem_cons_self
      · exact .inr (List.mem_cons_of_mem _ hrest)

theorem mem_started_handle {d : Desk} {a : Action} {g : Generation}
    (h : g ∈ (d.handle a).1.started) :
    g ∈ d.started ∨ .startPolling g ∈ (d.console.handle a).2.effects := by
  rw [handle_eq] at h
  exact mem_started_performAll (d := { d with console := (d.console.handle a).1 }) h

@[simp] theorem started_pass (d : Desk) (now : Nat) (deadline : Poller → Nat) :
    (d.pass now deadline).started = d.started := by
  simp [started, pass]

end Desk

namespace Exchange

variable {x : Exchange} {w : Situation}

/-! ### Answers on their way -/

/-- Each answer on its way is to one of the requests, in their order, or it is
the report of a poller of one of the generations. -/
inductive Accounts (gs : List Generation) : List Delivery → List Errand → Prop
  | nil : Accounts gs [] []
  | answer (q : Errand) (result : Except Fault q.call.Result) {ds : List Delivery}
      {qs : List Errand} : Accounts gs ds qs → Accounts gs (q.delivery result :: ds) (q :: qs)
  | report {g : Generation} (hg : g ∈ gs) (result : Except Fault StatusReport)
      {ds : List Delivery} {qs : List Errand} :
      Accounts gs ds qs → Accounts gs (.polled g result :: ds) qs

namespace Accounts

variable {gs : List Generation} {ds : List Delivery} {qs : List Errand}

theorem mono (h : Accounts gs ds qs) {gs' : List Generation} (hgs : gs ⊆ gs') :
    Accounts gs' ds qs := by
  induction h with
  | nil => exact .nil
  | answer q result _ ih => exact ih.answer q result
  | report hg result _ ih => exact ih.report (hgs hg) result

theorem append {ds' : List Delivery} {qs' : List Errand} (h : Accounts gs ds qs)
    (h' : Accounts gs ds' qs') : Accounts gs (ds ++ ds') (qs ++ qs') := by
  induction h with
  | nil => exact h'
  | answer q result _ ih => exact ih.answer q result
  | report hg result _ ih => exact ih.report hg result

end Accounts

theorem run_cons (x : Exchange) (q : Errand) (rest : List Errand) :
    x.run (q :: rest) = (x.ask q.call q.delivery).run rest := rfl

@[simp] theorem desk_run (x : Exchange) (qs : List Errand) : (x.run qs).desk = x.desk := by
  induction qs generalizing x with
  | nil => rfl
  | cons q rest ih => rw [run_cons, ih]; rfl

/-- Requests that are seen to are answered, one by one. -/
theorem accounts_run {gs : List Generation} (qs : List Errand) {x : Exchange} {before : List Errand}
    (h : Accounts gs x.waiting before) : Accounts gs (x.run qs).waiting (before ++ qs) := by
  induction qs generalizing x before with
  | nil => rwa [List.append_nil]
  | cons q rest ih =>
      rw [run_cons, List.append_cons]
      exact ih (h.append (.answer q (x.replies.answer q.call).1 .nil))

/-- An exchange and a situation have the same desk and the same open ends. -/
structure Matches (x : Exchange) (w : Situation) : Prop where
  desk : x.desk = w.desk
  accounts : Accounts x.desk.started x.waiting w.pending

theorem Matches.handle (h : x.Matches w) (a : Action) : (x.handle a).1.Matches (w.handle a) := by
  obtain ⟨desk, pending, story⟩ := w
  obtain ⟨rfl, haccounts⟩ := h
  have hdesk : (x.handle a).1.desk = (x.desk.handle a).1 := desk_run _ _
  refine ⟨hdesk, ?_⟩
  rw [hdesk]
  exact accounts_run (x.desk.handle a).2.1 (x := { x with desk := (x.desk.handle a).1 })
    (haccounts.mono (x.desk.started_handle a))

/-! ### Time -/

/-- A poller after its turn, when the time has come to this. -/
def turn (now interval : Nat) (p : Poller) : Poller :=
  { p with
    deadline := if p.cancelled || now < p.deadline then p.deadline
      else nextDeadline now interval p.deadline }

/-- The turn of a poller changes its own deadline only, and its report is on
its way if it asked. -/
theorem poll_spec {i : Nat} {p : Poller} (hp : x.desk.pollers[i]? = some p) :
    (x.poll i p).desk
        = { x.desk with
            pollers := x.desk.pollers.set i (turn x.desk.now x.desk.interval p) } ∧
      ∀ {gs qs}, p.generation ∈ gs → Accounts gs x.waiting qs →
        Accounts gs (x.poll i p).waiting qs := by
  unfold poll turn
  split
  · refine ⟨?_, fun _ h => h⟩
    have hset : x.desk.pollers.set i p = x.desk.pollers := by
      obtain ⟨hi, rfl⟩ := List.getElem?_eq_some_iff.1 hp
      exact List.set_getElem_self hi
    rw [hset]
  · refine ⟨rfl, fun hg h => ?_⟩
    have := h.append (.report hg (x.replies.answer .status).1 .nil)
    rwa [List.append_nil] at this

/-- The turns of all pollers, from some place of the list on. -/
theorem foldl_poll (before ps : List Poller) {x : Exchange}
    (hps : x.desk.pollers = before ++ ps) :
    ((ps.zipIdx before.length).foldl (fun x (p, i) => x.poll i p) x).desk
        = { x.desk with
            pollers := before ++ ps.map (turn x.desk.now x.desk.interval) } ∧
      ∀ {gs qs}, (∀ p ∈ ps, p.generation ∈ gs) → Accounts gs x.waiting qs →
        Accounts gs ((ps.zipIdx before.length).foldl (fun x (p, i) => x.poll i p) x).waiting
          qs := by
  induction ps generalizing x before with
  | nil => exact ⟨by rw [List.map_nil, ← hps]; rfl, fun _ h => h⟩
  | cons p rest ih =>
      -- the poller at the place has not had its turn yet, those before it had
      obtain ⟨hdesk, hwaiting⟩ := x.poll_spec (i := before.length) (p := p) (by simp [hps])
      have hset : (x.poll before.length p).desk.pollers
          = (before ++ [turn x.desk.now x.desk.interval p]) ++ rest := by
        simp [hdesk, hps]
      obtain ⟨ihdesk, ihwaiting⟩ := ih _ hset
      rw [List.length_append, List.length_singleton] at ihdesk ihwaiting
      simp only [List.zipIdx_cons, List.foldl_cons]
      refine ⟨?_, fun hgs h => ?_⟩
      · rw [ihdesk, hdesk]
        simp
      · exact ihwaiting (fun q hq => hgs q (List.mem_cons_of_mem _ hq))
          (hwaiting (hgs p List.mem_cons_self) h)

theorem Matches.advance (h : x.Matches w) (ms : Nat) :
    (x.advance ms).Matches
      (w.after (.pass (x.desk.now + ms) fun p =>
        (turn (x.desk.now + ms) x.desk.interval p).deadline)) := by
  obtain ⟨desk, pending, story⟩ := w
  obtain ⟨rfl, haccounts⟩ := h
  obtain ⟨hdesk, hwaiting⟩ := foldl_poll [] x.desk.pollers
    (x := { x with desk := { x.desk with now := x.desk.now + ms } }) rfl
  have hstarted : (x.advance ms).desk.started = x.desk.started := by
    rw [show (x.advance ms).desk = _ from hdesk]
    simp [Desk.started, turn]
  refine ⟨hdesk, ?_⟩
  rw [hstarted]
  exact hwaiting (fun p hp => List.mem_map_of_mem hp) haccounts

/-! ### Courses -/

/-- What an exchange can come to: the console starts, the user acts, time
passes and the oldest answer is delivered, in any order. -/
inductive Course (s : Settings) (replies : PreparedReplies) : Exchange → Prop
  | start : Course s replies { desk := .ofSettings s, replies }
  | attached : Course s replies (attach { desk := .ofSettings s, replies })
  | act {x : Exchange} {a : Action} (ha : ∀ d, a ≠ .deliver d) :
      Course s replies x → Course s replies (x.handle a).1
  | advance {x : Exchange} (ms : Nat) : Course s replies x → Course s replies (x.advance ms)
  | deliver {x : Exchange} : Course s replies x → Course s replies x.deliverOne.1

theorem Matches.attach (s : Settings) (replies : PreparedReplies) :
    (attach { desk := .ofSettings s, replies }).Matches (Situation.ofSettings s).attach :=
  ⟨rfl, .answer (.sync {}) _ (.answer .agent _ .nil)⟩

/-- The oldest answer is delivered: a request is answered, or a poller
reports. -/
theorem Matches.deliver {s : Settings} (h : x.Matches w) (hw : Reachable s w) :
    ∃ w', Reachable s w' ∧ x.deliverOne.1.Matches w' := by
  obtain ⟨desk, pending, story⟩ := w
  obtain ⟨hdesk, haccounts⟩ := h
  obtain ⟨xdesk, replies, waiting, calls⟩ := x
  obtain rfl : xdesk = desk := hdesk
  cases haccounts with
  | nil => exact ⟨_, hw, rfl, .nil⟩
  | @answer q result ds qs hrest =>
      refine ⟨_, hw.step (x := .answer q result) List.mem_cons_self, ?_⟩
      simp only [Situation.after, List.erase_cons_head]
      exact Matches.handle (x := { desk := xdesk, replies, waiting := ds, calls })
        (w := { desk := xdesk, pending := qs, story }) ⟨rfl, hrest⟩
        (.deliver (q.delivery result))
  | @report g hg result ds _ hrest =>
      obtain ⟨p, hp, hpg⟩ := List.mem_map.1 hg
      refine ⟨_, hw.step (x := .report g result) ⟨p, hp, hpg⟩, ?_⟩
      exact Matches.handle (x := { desk := xdesk, replies, waiting := ds, calls })
        (w := { desk := xdesk, pending, story }) ⟨rfl, hrest⟩
        (.deliver (.polled g result))

/-- **Every exchange runs through reachable situations.** -/
theorem Course.reachable {s : Settings} {replies : PreparedReplies} (h : Course s replies x) :
    ∃ w, Reachable s w ∧ x.Matches w := by
  induction h with
  | start => exact ⟨_, .start, rfl, .nil⟩
  | attached => exact ⟨_, .attached, .attach s replies⟩
  | act ha _ ih =>
      obtain ⟨w, hw, hm⟩ := ih
      exact ⟨_, hw.step (w.possible_act ha), hm.handle _⟩
  | advance ms _ ih =>
      obtain ⟨w, hw, hm⟩ := ih
      exact ⟨_, hw.step (x := .pass _ _) trivial, hm.advance ms⟩
  | deliver _ ih =>
      obtain ⟨w, hw, hm⟩ := ih
      exact hm.deliver hw

end Exchange

end VmAssessment
