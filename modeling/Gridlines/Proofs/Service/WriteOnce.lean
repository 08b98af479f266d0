import Gridlines.Proofs.Http.Posting
import Gridlines.Service.Run

/-!
# The slot is written once

Whatever happens to a running service, in whatever order, the slot takes the first dataset that is
offered to it and keeps it.  A step is described by `Moment.step_fst`: the slot after a moment
holds what it held, or else what the moment offers.  Everything about runs follows from it.

* `Slot.final_dataset` : what the slot holds after a run.
* `Slot.before_eq_final` : a slot that is filled during a run is the slot at its end.
* `Slot.run_writeOnce` : the run as a whole, with what comes back from installs and questions.
-/

namespace Gridlines

/-- The dataset that a moment offers to the slot: one that is installed, or one that a load has
read. -/
def Moment.offered? (m : Moment) : Option Dataset :=
  match m.event with
  | .install d => some d
  | .load path => (Dataset.load m.service.now m.service.files path).toOption
  | _ => none

/-- What came back from an event is an answer from a dataset. -/
inductive Event.Answered : Event → Effect → Prop
  | answer {q : String} {r : Response} : Answered (.answer q) (.answered (.ok r))
  | execute {i : Intent} {r : Result} : Answered (.execute i) (.executed (.ok r))
  | request {r : Http.Request} {q : Question} {reply : Http.Reply} :
    r.Posts q → reply.status = 200 → Answered (.request r) (.replied reply)

/-- What came back from an event is that there is no dataset. -/
inductive Event.Unanswered : Event → Effect → Prop
  | answer {q : String} {e : Unavailable} : Unanswered (.answer q) (.answered (.error e))
  | execute {i : Intent} {e : Unavailable} : Unanswered (.execute i) (.executed (.error e))
  | request {r : Http.Request} {q : Question} {reply : Http.Reply} :
    r.Posts q → reply.status = 503 → Unanswered (.request r) (.replied reply)

/-! ### One step -/

namespace Slot

theorem install_of_some {slot : Slot} {d₀ : Dataset} (h : slot.dataset = some d₀) (d : Dataset) :
    slot.install d = (slot, some d) := by
  simp only [install, h]

theorem install_fst (slot : Slot) (d : Dataset) :
    (slot.install d).1 = ⟨slot.dataset.or (some d)⟩ := by
  obtain ⟨_ | d₀⟩ := slot <;> rfl

theorem load_eq (slot : Slot) (now : String) (files : Files) (path : String) :
    slot.load now files path = ⟨slot.dataset.or (Dataset.load now files path).toOption⟩ := by
  unfold load
  cases Dataset.load now files path with
  | ok d => exact install_fst slot d
  | error e => simp [Except.toOption]

end Slot

namespace Moment

/-- A slot keeps what it holds; an empty slot takes what the moment offers, if it offers
anything. -/
theorem step_fst (m : Moment) (slot : Slot) :
    (m.step slot).1 = ⟨slot.dataset.or m.offered?⟩ := by
  obtain ⟨service, event⟩ := m
  cases event with
  | install d =>
    rw [show (Moment.step ⟨service, .install d⟩ slot).1 = (slot.install d).1 by
      simp only [step, Service.step]; split <;> simp_all]
    exact slot.install_fst d
  | load path => exact slot.load_eq service.now service.files path
  | answer | execute | summary | request => simp [step, Service.step, offered?]

theorem step_fst_of_some {m : Moment} {slot : Slot} {d : Dataset} (h : slot.dataset = some d) :
    (m.step slot).1 = slot := by
  rw [step_fst, h]
  cases slot
  simp_all

/-- An answer shows that the slot holds a dataset. -/
theorem isSome_of_answered {m : Moment} {slot : Slot} (h : m.event.Answered (m.step slot).2) :
    slot.dataset.isSome := by
  rw [Option.isSome_iff_ne_none]
  intro hd
  -- what comes back from the empty slot is no answer, event by event
  obtain ⟨service, event⟩ := m
  cases event with
  | answer q =>
    have he : (Moment.step ⟨service, .answer q⟩ slot).2 = .answered (.error .unavailable) := by
      simp only [step, Service.step, Slot.answer, Slot.execute, hd]
      rfl
    rw [he] at h
    cases h
  | execute i =>
    have he : (Moment.step ⟨service, .execute i⟩ slot).2 = .executed (.error .unavailable) := by
      simp only [step, Service.step, Slot.execute, hd]
    rw [he] at h
    cases h
  | request r =>
    cases h with
    | request hq hs =>
      have h503 := Http.respond_empty service.server hq hd
      exact absurd (hs.symm.trans h503) (by decide)
  | install | load | summary => cases h

/-- A slot that holds a dataset leaves nothing unanswered. -/
theorem not_unanswered {m : Moment} {slot : Slot} {d : Dataset} (hd : slot.dataset = some d) :
    ¬m.event.Unanswered (m.step slot).2 := by
  intro h
  obtain ⟨service, event⟩ := m
  cases event with
  | answer q =>
    have he : (Moment.step ⟨service, .answer q⟩ slot).2 =
        .answered (.ok ⟨(d.execute (.ofQuery q)).text, (d.execute (.ofQuery q)).features⟩) := by
      simp only [step, Service.step, Slot.answer, Slot.execute, hd]
      rfl
    rw [he] at h
    cases h
  | execute i =>
    have he : (Moment.step ⟨service, .execute i⟩ slot).2 = .executed (.ok (d.execute i)) := by
      simp only [step, Service.step, Slot.execute, hd]
    rw [he] at h
    cases h
  | request r =>
    cases h with
    | request hq hs =>
      have h200 := (Http.respond_loaded service.server hq hd).1
      exact absurd (hs.symm.trans h200) (by decide)
  | install | load | summary => cases h

end Moment

/-! ### Runs -/

namespace Slot

theorem final_cons (slot : Slot) (m : Moment) (ms : List Moment) :
    slot.final (m :: ms) = (m.step slot).1.final ms := rfl

/-- **The slot holds the first dataset it was given**: the one it held at first, or else the first
that a moment offers. -/
theorem final_dataset (slot : Slot) (ms : List Moment) :
    (slot.final ms).dataset = slot.dataset.or (ms.findSome? Moment.offered?) := by
  induction ms generalizing slot with
  | nil => simp [final]
  | cons m ms ih =>
    -- the first `or` keeps what the slot holds, the second the first offer
    rw [final_cons, ih, Moment.step_fst, List.findSome?_cons]
    cases slot.dataset <;> cases m.offered? <;> rfl

theorem final_of_some {slot : Slot} {d : Dataset} (h : slot.dataset = some d) (ms : List Moment) :
    slot.final ms = slot := by
  induction ms with
  | nil => rfl
  | cons m ms ih => rw [final_cons, Moment.step_fst_of_some h, ih]

/-- What a run records of a moment is what the moment does to the slot before it. -/
theorem eq_occur_of_mem_run {slot : Slot} {ms : List Moment} {o : Occurrence}
    (ho : o ∈ slot.run ms) : o = o.moment.occur o.before := by
  induction ms generalizing slot with
  | nil => cases ho
  | cons m ms ih =>
    rcases List.mem_cons.1 ho with rfl | ho
    · rfl
    · exact ih ho

theorem effect_of_mem_run {slot : Slot} {ms : List Moment} {o : Occurrence} {m : Moment}
    (ho : o ∈ slot.run ms) (hm : o.moment = m) : o.effect = (m.step o.before).2 :=
  hm ▸ congrArg Occurrence.effect (eq_occur_of_mem_run ho)

theorem after_of_mem_run {slot : Slot} {ms : List Moment} {o : Occurrence}
    (ho : o ∈ slot.run ms) : o.after = ⟨o.before.dataset.or o.moment.offered?⟩ :=
  (congrArg Occurrence.after (eq_occur_of_mem_run ho)).trans (o.moment.step_fst o.before)

theorem before_eq_final {slot : Slot} {ms : List Moment} {o : Occurrence} {d : Dataset}
    (ho : o ∈ slot.run ms) (hd : o.before.dataset = some d) : o.before = slot.final ms := by
  induction ms generalizing slot with
  | nil => cases ho
  | cons m ms ih =>
    rcases List.mem_cons.1 ho with rfl | ho
    · -- filled before this moment, the slot stays as it is
      exact (final_of_some hd (m :: ms)).symm
    · exact ih ho

/-- Once the slot holds a dataset, it is the same before every later moment. -/
theorem before_eq_of_some {slot : Slot} {ms : List Moment} {o : Occurrence} {d : Dataset}
    (hd : slot.dataset = some d) (ho : o ∈ slot.run ms) : o.before = slot := by
  induction ms generalizing slot with
  | nil => cases ho
  | cons m ms ih =>
    rcases List.mem_cons.1 ho with rfl | ho
    · rfl
    · have hm := Moment.step_fst_of_some (m := m) hd
      exact (ih (by rw [hm, hd]) ho).trans hm

theorem pairwise_answered (slot : Slot) (ms : List Moment) :
    (slot.run ms).Pairwise fun o p =>
      o.moment.event.Answered o.effect → ¬p.moment.event.Unanswered p.effect := by
  induction ms generalizing slot with
  | nil => exact List.Pairwise.nil
  | cons m ms ih =>
    refine List.pairwise_cons.2 ⟨fun p hp hm => ?_, ih _⟩
    -- the answer shows that the slot is filled, so it is the same before `p`
    obtain ⟨d, hd⟩ := Option.isSome_iff_exists.1 (Moment.isSome_of_answered hm)
    have hs := Moment.step_fst_of_some (m := m) hd
    have hpd : p.before.dataset = some d := by
      rw [before_eq_of_some (by rw [hs, hd]) hp, hs, hd]
    rw [effect_of_mem_run hp rfl]
    exact Moment.not_unanswered hpd

/-- What it means for a run that the slot is written once. -/
structure WriteOnce (slot : Slot) (ms : List Moment) : Prop where
  /-- The slot ends with the dataset that it held at first, or else with the first one that a
  moment offers, if any does. -/
  final : (slot.final ms).dataset = slot.dataset.or (ms.findSome? Moment.offered?)
  /-- An empty slot takes the dataset that is installed. -/
  installed : ∀ o ∈ slot.run ms, ∀ d, o.moment.event = .install d → o.before = .empty →
    o.effect = .installed ∧ o.after = .loaded d
  /-- A filled slot hands back the dataset that is installed. -/
  refused : ∀ o ∈ slot.run ms, ∀ d, o.moment.event = .install d → o.before.isLoaded →
    o.effect = .handedBack d ∧ o.after = o.before
  /-- An empty slot takes the dataset that a load has read. -/
  taken : ∀ o ∈ slot.run ms, ∀ path d, o.moment.event = .load path → o.before = .empty →
    Dataset.load o.moment.service.now o.moment.service.files path = .ok d → o.after = .loaded d
  /-- A failed load changes nothing, nor does a load into a filled slot. -/
  unloaded : ∀ o ∈ slot.run ms, ∀ path, o.moment.event = .load path →
    (o.before.isLoaded ∨ ∃ e,
      Dataset.load o.moment.service.now o.moment.service.files path = .error e) →
    o.after = o.before
  /-- What is neither an install nor a load changes nothing. -/
  read : ∀ o ∈ slot.run ms, (∀ d, o.moment.event ≠ .install d) →
    (∀ path, o.moment.event ≠ .load path) → o.after = o.before
  /-- Everything is answered from the empty slot or from the slot at the end. -/
  before : ∀ o ∈ slot.run ms, o.before = .empty ∨ o.before = slot.final ms
  /-- A question that is answered is answered from the dataset at the end. -/
  answer : ∀ o ∈ slot.run ms, ∀ q r, o.moment.event = .answer q → o.effect = .answered (.ok r) →
    ∃ d, (slot.final ms).dataset = some d ∧
      r = ⟨(d.execute (.ofQuery q)).text, (d.execute (.ofQuery q)).features⟩
  /-- So is an intent, -/
  execute : ∀ o ∈ slot.run ms, ∀ i r, o.moment.event = .execute i → o.effect = .executed (.ok r) →
    ∃ d, (slot.final ms).dataset = some d ∧ r = d.execute i
  /-- and a question that is posted. -/
  post : ∀ o ∈ slot.run ms, ∀ r q reply, o.moment.event = .request r → r.Posts q →
    o.effect = .replied reply → reply.status = 200 →
    ∃ d, (slot.final ms).dataset = some d ∧
      reply.body = (Response.toJson ⟨(d.execute (.ofQuery q.query)).text,
        (d.execute (.ofQuery q.query)).features⟩).compact
  /-- After an answer nothing is left unanswered. -/
  lasting : (slot.run ms).Pairwise fun o p =>
    o.moment.event.Answered o.effect → ¬p.moment.event.Unanswered p.effect

/-- A moment that offers nothing, or that finds the slot filled, leaves the slot as it is. -/
theorem after_eq_before {slot : Slot} {ms : List Moment} {o : Occurrence} (ho : o ∈ slot.run ms)
    (h : o.before.isLoaded ∨ o.moment.offered? = none) : o.after = o.before := by
  rw [after_of_mem_run ho]
  rcases h with h | h
  · obtain ⟨d, hd⟩ := Option.isSome_iff_exists.1 h
    rw [hd]
    exact (congrArg Slot.mk hd).symm
  · rw [h, Option.or_none]

/-- **The slot is written once**, and all answers of a run come from the dataset written then. -/
theorem run_writeOnce (slot : Slot) (ms : List Moment) : slot.WriteOnce ms where
  final := final_dataset slot ms
  installed := by
    intro o ho d he hb
    have hs : o.effect = (o.moment.step o.before).2 := effect_of_mem_run ho rfl
    refine ⟨?_, ?_⟩
    · rw [hs, hb, Moment.step, he]
      rfl
    · rw [after_of_mem_run ho, hb, Moment.offered?, he]
      rfl
  refused := by
    intro o ho d he hb
    obtain ⟨d₀, hd₀⟩ := Option.isSome_iff_exists.1 hb
    refine ⟨?_, after_eq_before ho (.inl hb)⟩
    rw [effect_of_mem_run ho rfl, Moment.step, he]
    simp only [Service.step, install_of_some hd₀]
  taken := by
    intro o ho path d he hb hd
    rw [after_of_mem_run ho, hb, Moment.offered?, he]
    simp only [hd]
    rfl
  unloaded := by
    intro o ho path he h
    refine after_eq_before ho (h.imp id fun ⟨e, hl⟩ => ?_)
    simp only [Moment.offered?, he, hl, Except.toOption]
  read := by
    intro o ho hi hl
    refine after_eq_before ho (.inr ?_)
    rw [Moment.offered?]
    split
    · next d he => exact absurd he (hi d)
    · next path he => exact absurd he (hl path)
    · rfl
  before := by
    intro o ho
    cases hd : o.before.dataset with
    | none => exact .inl (congrArg Slot.mk hd)
    | some d => exact .inr (before_eq_final ho hd)
  answer := by
    intro o ho q r he hr
    rw [effect_of_mem_run ho rfl, Moment.step, he] at hr
    cases hd : o.before.dataset with
    | none => simp [Service.step, Slot.answer, Slot.execute, hd, Except.map] at hr
    | some d =>
      refine ⟨d, before_eq_final ho hd ▸ hd, ?_⟩
      simpa [Service.step, Slot.answer, Slot.execute, hd, Except.map] using hr.symm
  execute := by
    intro o ho i r he hr
    rw [effect_of_mem_run ho rfl, Moment.step, he] at hr
    cases hd : o.before.dataset with
    | none => simp [Service.step, Slot.execute, hd] at hr
    | some d =>
      refine ⟨d, before_eq_final ho hd ▸ hd, ?_⟩
      simpa [Service.step, Slot.execute, hd] using hr.symm
  post := by
    intro o ho r q reply he hq hr hs
    rw [effect_of_mem_run ho rfl, Moment.step, he] at hr
    obtain rfl : o.moment.service.server.respond o.before r = reply := by
      simpa [Service.step] using hr
    cases hd : o.before.dataset with
    | none => exact absurd (hs.symm.trans (Http.respond_empty _ hq hd)) (by decide)
    | some d => exact ⟨d, before_eq_final ho hd ▸ hd, (Http.respond_loaded _ hq hd).2⟩
  lasting := pairwise_answered slot ms

end Slot

end Gridlines
