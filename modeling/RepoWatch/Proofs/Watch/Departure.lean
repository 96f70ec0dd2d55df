import RepoWatch.Proofs.Watch.Ledger
/-!
# A watch that is not received

When the receiver of a watch is gone, the watch finds that out as soon as it looks up. It makes only
a few steps more, in which it asks nobody, sends nothing, and stores nothing but what had been
brought to it before; and when it waits, it has ended.
-/

namespace RepoWatch

namespace Watch

/-- How many steps of its own a watch can still make when it is not received. -/
def stepsLeft (x : Watch) : Nat :=
  match x.phase with
  | .stopped => 0
  | .storing _ => 3
  | .notifying _ | .rereading => 2
  | _ => 1

variable {x x' : Watch} {cache : Cache} {effect : Effect}

/-- A watch that is not received comes nearer to its end by each step, and asks nobody. -/
theorem step_unheard (h : x.step false cache = some (x', effect)) :
    x'.stepsLeft < x.stepsLeft ∧ effect ≠ .call := by
  cases hphase : x.phase with
  | storing data =>
      simp only [step, hphase, Option.some.injEq, Prod.mk.injEq] at h
      obtain ⟨rfl, rfl⟩ := h
      cases hholds : cache.holds x.query data <;> simp [stepsLeft, goTo, hphase]
  | notifying data =>
      simp only [step, hphase, Option.some.injEq, Prod.mk.injEq] at h
      obtain ⟨rfl, rfl⟩ := h
      simp [stepsLeft, goTo, hphase]
  | rereading =>
      simp only [step, hphase, Option.some.injEq, Prod.mk.injEq] at h
      obtain ⟨rfl, rfl⟩ := h
      refine ⟨?_, by simp⟩
      have hle : (x.goTo (x.afterReread (cache.get? x.query))).stepsLeft ≤ 1 := by
        unfold afterReread
        cases cache.get? x.query with
        | none => exact Nat.le_refl 1
        | some data =>
            dsimp only
            split <;> exact Nat.le_refl 1
      have hnow : x.stepsLeft = 2 := by rw [stepsLeft, hphase]
      omega
  | stopped =>
      simp only [step, hphase] at h
      cases h
  | _ =>
      simp only [step, hphase, emit, emitData, Bool.false_eq_true, if_false, Option.some.injEq,
        Prod.mk.injEq] at h
      obtain ⟨rfl, rfl⟩ := h
      simp [stepsLeft, goTo, hphase]

/-- A watch that is not received waits for nothing. -/
theorem stopped_of_step_unheard (h : x.step false cache = none) : x.phase = .stopped := by
  cases hphase : x.phase <;> simp [step, hphase] at h ⊢

end Watch

section Departure

variable {number : Nat} {x x' x₀ : Watch} {cache : Cache} {l : Label} {origin w w' : World}
  {t : Trace}

theorem Advance.unheard (h : Advance number x false cache l x') :
    l.calls number = false ∧ l.sentBy number = none := by
  cases h with
  | ended hlabel => rcases hlabel with rfl | ⟨_, rfl⟩ | rfl <;> exact ⟨rfl, rfl⟩
  | hit | missed | stored | storedEqual | notified | noticed | passedOver | lost | unchanged
  | changed => exact ⟨rfl, rfl⟩
  | _ => contradiction

theorem Label.brings_unheard (l : Label) (number : Nat) : l.brings number false = none := by
  unfold Label.brings
  split <;> rfl

/-- A step, whoever makes it, neither sends nor asks anything for a watch that is not received. -/
theorem Step.unheard (step : Step w l w') (hx : w.hub.watch? number = some x)
    (hgone : w.hub.isReceived number = false) :
    l.calls number = false ∧ l.sentBy number = none ∧ w'.hub.isReceived number = false := by
  have hgone' := step.isReceived_eq_false hx hgone
  rcases step.watch_cases hx with ⟨-, hl⟩ | ⟨x', -, advance⟩
  · exact ⟨Label.calls_of_isOf hl, Label.sentBy_of_isOf hl, hgone'⟩
  · rw [hgone] at advance
    exact ⟨advance.unheard.1, advance.unheard.2, hgone'⟩

/-- A watch that is not received asks nobody, sends nothing, and is given nothing. -/
theorem Run.unheard (run : Run origin t w) (hx : origin.hub.watch? number = some x₀)
    (hgone : origin.hub.isReceived number = false) :
    w.hub.isReceived number = false ∧ t.calls number = 0 ∧ t.sent number = [] ∧
      t.brought number = [] := by
  apply run.induction_while (P := fun t w => w.hub.isReceived number = false ∧
    t.calls number = 0 ∧ t.sent number = [] ∧ t.brought number = []) hx ⟨hgone, rfl, rfl, rfl⟩
  rintro t w l w' x ⟨hgone, hcalls, hsent, hbrought⟩ step hx
  obtain ⟨hcall, hevent, hgone'⟩ := step.unheard hx hgone
  refine ⟨hgone', ?_, ?_, ?_⟩
  · rw [Trace.calls_snoc, hcalls, hcall]
    rfl
  · rw [Trace.sent_snoc, hsent, hevent]
    rfl
  · rw [Trace.brought_snoc, hbrought, hgone', Label.brings_unheard]
    rfl

/-- A watch that is not received stores at most what it was about to store. -/
theorem Run.stored_unheard (run : Run origin t w) (held : origin.Held)
    (hx : origin.hub.watch? number = some x₀) (hgone : origin.hub.isReceived number = false) :
    (t.stored number).Sublist (x₀.toStore.map (x₀.query, ·)).toList := by
  obtain ⟨x, -, account⟩ := run.account held hx
  obtain ⟨-, -, -, hbrought⟩ := run.unheard hx hgone
  have heq := account.stored_eq
  rw [hbrought, List.map_nil, List.append_nil] at heq
  rw [← heq]
  exact List.sublist_append_left _ _

/-- A watch that has ended stays so. -/
theorem Run.stopped_stays (run : Run origin t w) (hx : origin.hub.watch? number = some x₀) :
    ∃ x, w.hub.watch? number = some x ∧ (x₀.phase = .stopped → x.phase = .stopped) := by
  apply run.watch_induction (P := fun _ _ x => x₀.phase = .stopped → x.phase = .stopped) hx id
  · exact fun hkept _ _ _ => hkept
  · exact fun hkept _ _ advance hstopped => absurd (hkept hstopped) advance.not_stopped

/-- A watch that is not received and waits has ended. -/
theorem Hub.stopped_of_waiting {s : Hub} (hx : s.watch? number = some x)
    (hgone : s.isReceived number = false) (h : s.stepWatch number = none) :
    x.phase = .stopped := by
  have hnone := Hub.step_eq_none hx h
  rw [hgone] at hnone
  exact Watch.stopped_of_step_unheard hnone

end Departure
end RepoWatch
