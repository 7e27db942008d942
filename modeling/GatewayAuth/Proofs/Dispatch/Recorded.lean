import GatewayAuth.Proofs.Dispatch.Charged
import GatewayAuth.Proofs.Http.Exchanged

/-!
# `GatewayAuth.Proofs.Dispatch.Recorded` — where the usage of an authorization has gone

An authorization that comes back authorized was charged for with a direct check of limits, or its usage was recorded at
the buffered backend of its destination before. Either way there is a moment at which that happened, and a call behind it
that has ended.

## Contents
- `mem_answeredIn_or_charged`, `mem_recordedIn`: what comes back authorized, request by request.
- `exists_recording`: the moment at which usage was recorded.
- `exists_called_of_charged`, `called_of_asked`: the calls behind charges and questions.
-/

namespace GatewayAuth.Manager

variable {m : Manager} {h : Past} {now id : Nat} {actor : Actor} {input : Input} {d : String}
  {p : Progress Manager Result Event} {wire : Wire.Request} {start : Nat}
  {limits : Option CacheLimits} {settings : DispatchSettings}

/-! ## Charged or recorded -/

/-- An authorization that comes back authorized stands for the usage of its request. -/
theorem Authorization.mem_charges {a : Authorization} (hyes : a.isAuthorized = true)
    (hwire : a.request.toWire = .ok wire) : wire ∈ a.charges a.destination := by
  unfold Authorization.isAuthorized at hyes
  unfold Authorization.charges chargesOf
  cases hresult : a.result with
  | error e =>
      rw [hresult] at hyes
      cases hyes
  | ok response =>
      rw [hresult] at hyes
      have hyes : response.authorized = true := hyes
      simp [hyes, requestsFor, hwire]

/-- **What has come back authorized** was answered through a buffered backend or charged for directly. -/
theorem mem_answeredIn_or_charged (run : Run system (.new start limits settings) h m)
    {a : Authorization} (ha : a ∈ authorizations h) (hcharges : wire ∈ a.charges d) :
    wire ∈ answeredIn d h ∨ wire ∈ charged d h := by
  induction run with
  | start => cases ha
  | begins run hbegin ih => exact ih ha
  | @steps h m now actor input p run hstep ih =>
      have hcharged : Charges d h m actor input p :=
        (stepped_of_step hstep).charges (coherent_of_run run) d
      rcases List.mem_append.1 ha with hnew | hold
      · have hmem : wire ∈ (completedNow h m actor input p).flatMap (Authorization.charges d) :=
          List.mem_flatMap.2 ⟨a, hnew, hcharges⟩
        unfold Charges at hcharged
        rw [← hcharged, List.mem_append] at hmem
        exact hmem.imp (List.mem_append_left _) (List.mem_append_left _)
      · exact (ih hold).imp (List.mem_append_right _) (List.mem_append_right _)

/-- What a call is about to come back with stays the same while others take steps. -/
theorem Stepped.owedOf_of_ne (step : Stepped m now actor input p) (hne : actor ≠ .call id)
    (d : String) : owedOf d h p.state id = owedOf d h m id := by
  unfold owedOf
  rw [step.others hne]

/-- **What is answered as authorized through a buffered backend has been recorded there**, and so has what is about to
be answered. -/
theorem mem_recordedIn (run : Run system (.new start limits settings) h m) (d : String) :
    (∀ wire ∈ answeredIn d h, wire ∈ recordedIn d h) ∧
      ∀ id, ∀ wire ∈ owedOf d h m id, wire ∈ recordedIn d h := by
  induction run with
  | start => exact ⟨fun _ hmem => (by cases hmem), fun _ _ hmem => (by cases hmem)⟩
  | @begins h m m' actor task run hbegin ih =>
      refine ⟨ih.1, fun other wire hmem => ?_⟩
      cases actor with
      | flushLoop slot => cases hbegin
      | refreshLoop => cases hbegin
      | call id =>
          obtain ⟨hfree, rfl⟩ := eq_resume_of_begin? hbegin
          unfold owedOf at hmem
          rw [jobs_resume, Table.find?_insert, History.task?_began] at hmem
          by_cases hother : id = other
          · -- a call that has just begun is about to come back with nothing
            rw [if_pos hother] at hmem
            cases task <;> cases hmem
          · have hne : Actor.call id ≠ .call other := fun heq => hother (Actor.call.inj heq)
            rw [if_neg hother, if_neg hne] at hmem
            exact ih.2 other wire hmem
  | @steps h m now actor input p run hstep ih =>
      have step : Stepped m now actor input p := stepped_of_step hstep
      have hothers : ∀ other, actor ≠ .call other → ∀ wire ∈ owedOf d h p.state other,
          wire ∈ recordedIn d (.stepped m now actor input p :: h) := by
        intro other hne wire hmem
        rw [step.owedOf_of_ne hne] at hmem
        exact List.mem_append_right _ (ih.2 other wire hmem)
      cases step with
      | looped hr work | refreshed work =>
          constructor
          · intro wire hmem
            rcases List.mem_append.1 hmem with hnew | hold
            · rw [answeredNow_of_more rfl] at hnew
              cases hnew
            · exact List.mem_append_right _ (ih.1 wire hold)
          · exact fun other => hothers other nofun
      | @called id _ _ step =>
          -- what the call then has, or comes back with, it had before or records now
          have hown : ∀ wire, wire ∈ answeredNow d h m (.call id) p ++ owedOf d h p.state id →
              wire ∈ recordedIn d (.stepped m now (.call id) input p :: h) := by
            intro wire hmem
            rw [step.recorded (coherent_of_run run) d, List.mem_append] at hmem
            rcases hmem with hbefore | hnow
            · exact List.mem_append_right _ (ih.2 id wire hbefore)
            · exact List.mem_append_left _ hnow
          constructor
          · intro wire hmem
            rcases List.mem_append.1 hmem with hnew | hold
            · exact hown wire (List.mem_append_left _ hnew)
            · exact List.mem_append_right _ (ih.1 wire hold)
          · intro other wire hmem
            by_cases hother : id = other
            · subst hother
              exact hown wire (List.mem_append_right _ hmem)
            · exact hothers other (fun heq => hother (Actor.call.inj heq)) wire hmem

/-! ## Moments -/

/-- Only calls record usage. -/
theorem Stepped.exists_call_of_recordedFor (step : Stepped m now actor input p) (hc : Coherent h m)
    (hmem : wire ∈ m.backends.recordedFor d (slotEvents p.events)) : ∃ id, actor = .call id := by
  cases step with
  | called step => exact ⟨_, rfl⟩
  | refreshed work => cases hmem
  | looped hr work =>
      have hsound := hc.sound
      rw [backends_of_registry hr] at hsound
      rw [slotEvents_map, backends_of_registry hr, recordedFor_of_looped hsound work] at hmem
      cases hmem

/-- **Usage that has been recorded was recorded at some moment**, by a call, at a backend of its destination. -/
theorem exists_recording (run : Run system (.new start limits settings) h m)
    (hmem : wire ∈ recordedIn d h) :
    ∃ since m₀ now₀ id input₀ p₀ before slot,
      h = since ++ .stepped m₀ now₀ (.call id) input₀ p₀ :: before ∧
        .atSlot slot (.recorded wire) ∈ p₀.events ∧ m₀.backends.destinationOf slot = d := by
  induction run with
  | start => cases hmem
  | @begins h m m' actor task run hbegin ih =>
      obtain ⟨since, m₀, now₀, id, input₀, p₀, before, slot, rfl, hevent⟩ := ih hmem
      exact ⟨.began actor task :: since, m₀, now₀, id, input₀, p₀, before, slot, rfl, hevent⟩
  | @steps h m now actor input p run hstep ih =>
      rcases List.mem_append.1 hmem with hnow | hold
      · obtain ⟨id, rfl⟩ :=
          (stepped_of_step hstep).exists_call_of_recordedFor (coherent_of_run run) hnow
        unfold Registry.recordedFor at hnow
        obtain ⟨e, he, hrecords⟩ := List.mem_filterMap.1 hnow
        split at hrecords
        · next slot request =>
          split at hrecords
          · next hdestination =>
            cases hrecords
            refine ⟨[], m, now, id, input, p, h, slot, rfl, ?_, hdestination⟩
            -- an event at a slot is one of the step
            unfold slotEvents at he
            obtain ⟨e', he', hsame⟩ := List.mem_filterMap.1 he
            split at hsame
            · cases hsame
              exact he'
            · cases hsame
          · cases hrecords
        · cases hrecords
      · obtain ⟨since, m₀, now₀, id, input₀, p₀, before, slot, rfl, hevent⟩ := ih hold
        exact ⟨.stepped m now actor input p :: since, m₀, now₀, id, input₀, p₀, before, slot, rfl,
          hevent⟩

/-! ## The calls behind them -/

/-- Over HTTP, usage that was charged for directly was charged for with a check that was answered with a success. -/
theorem exists_called_of_charged {network : Past → Http.Connection}
    (http : system.Told (Http.through network) h) (hmem : wire ∈ charged d h) :
    ∃ past, (past, .authrep d wire) ∈ system.called h ∧
      ∃ reply, Http.delivered? (network past) (.authrep d wire) = some reply ∧
        200 ≤ reply.status ∧ reply.status ≤ 299 := by
  induction http with
  | nil => cases hmem
  | began http ih => exact ih hmem
  | @stepped m now actor input p h hrule http ih =>
      rcases List.mem_append.1 hmem with hnow | hold
      · -- only the answer to a direct check charges for usage
        cases hwant : m.want actor with
        | reply call =>
            rw [hwant] at hnow
            have htold : input = (Http.perform (network h) call).input := hrule.2 call hwant
            unfold chargedNow at hnow
            split at hnow
            · next response =>
              cases call with
              | authrep d' wire' =>
                  obtain ⟨rfl, rfl, hreply⟩ := (mem_chargedNow_iff htold.symm).1 hnow
                  refine ⟨h, List.mem_append_left _ ?_, hreply⟩
                  show _ ∈ System.calledNow h (m.want actor)
                  rw [hwant]
                  exact List.mem_singleton_self _
              | _ => cases hnow
            · cases hnow
        | _ =>
            have hnone : chargedNow d (m.want actor) input = [] :=
              chargedNow_eq_nil (by rw [hwant]; nofun)
            rw [hnone] at hnow
            cases hnow
      · obtain ⟨past, hcalled, hreply⟩ := ih hold
        exact ⟨past, List.mem_append_right _ hcalled, hreply⟩

/-- A question that has been answered is a call that has ended. -/
theorem called_of_consulted {c : Consultation} (hc : c ∈ consulted id h) :
    (c.before, c.call) ∈ system.called h := by
  induction h with
  | nil => cases hc
  | cons moment h ih =>
      cases moment with
      | began actor task =>
          unfold consulted at hc
          split at hc
          · cases hc
          · exact ih hc
      | stepped m now actor input p =>
          unfold consulted at hc
          split at hc
          · rcases List.mem_append.1 hc with hnew | hold
            · refine List.mem_append_left _ ?_
              show _ ∈ System.calledNow h (m.want actor)
              unfold consultedNow at hnew
              split at hnew
              · split at hnew
                · next call hwant =>
                  cases List.mem_singleton.1 hnew
                  rw [hwant]
                  exact List.mem_singleton_self _
                · cases hnew
              · cases hnew
            · exact List.mem_append_right _ (ih hold)
          · exact List.mem_append_right _ (ih hc)

/-- So is each question of an authorization that has come back. -/
theorem called_of_asked {a : Authorization} {c : Consultation} (ha : a ∈ authorizations h)
    (hc : c ∈ a.asked) : (c.before, c.call) ∈ system.called h := by
  induction h with
  | nil => cases ha
  | cons moment h ih =>
      cases moment with
      | began actor task => exact ih ha
      | stepped m now actor input p =>
          rcases List.mem_append.1 ha with hnew | hold
          · unfold completedNow at hnew
            split at hnew
            · next id result d request hresult htask =>
              cases List.mem_singleton.1 hnew
              have hasked : c ∈ consulted id (.stepped m now (.call id) input p :: h) := by
                unfold consulted
                rw [if_pos rfl]
                exact hc
              exact called_of_consulted hasked
            · cases hnew
          · exact List.mem_append_right _ (ih hold)

end GatewayAuth.Manager
