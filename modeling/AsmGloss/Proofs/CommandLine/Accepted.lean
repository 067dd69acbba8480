import AsmGloss.CommandLine.Arguments
import AsmGloss.Proofs.Attempts

/-!
# Arguments that are accepted

A switch with choices takes effect with one of them only, or with none at all.
So settings that were read name a family that is known, unless they name none.
-/

namespace AsmGloss

namespace Settings

/-- The names of families that can be chosen. -/
def families : List String :=
  "auto" :: Profile.all.map (·.name)

/-- The family is one that can be chosen, or is missing. -/
def IsOffered (settings : Settings) : Prop :=
  ∀ name ∈ settings.family, name ∈ families

variable {settings next : Settings}

theorem assign_offered {switch : Switch} {value : Option SystemText}
    (assigned : settings.assign switch value = .ok next)
    (offered : settings.IsOffered)
    (chosen : switch = .family →
      ∀ given ∈ value, ∀ name ∈ given.text?, name ∈ families) :
    next.IsOffered := by
  cases switch with
  | help => cases assigned
  | version => cases assigned
  | family =>
      cases assigned
      intro name member
      obtain ⟨given, offers, named⟩ := Option.bind_eq_some_iff.mp member
      exact chosen rfl given offers name named
  | outputDirectory | format | table | verbose | quiet | logFile =>
      cases assigned
      exact offered

/-- One switch. -/
theorem apply_offered {switch : Switch} {value : Option SystemText}
    (applied : settings.apply switch value = .ok next)
    (offered : settings.IsOffered) : next.IsOffered := by
  unfold apply at applied
  split at applied
  · rename_i choices given kind
    split at applied
    · rename_i among
      apply assign_offered applied offered
      rintro rfl _ given name named
      cases kind
      cases given
      rw [named] at among
      exact List.contains_iff_mem.mp among
    · cases applied
  · rename_i free
    apply assign_offered applied offered
    rintro rfl given member
    exact (free _ given rfl member).elim

theorem applyAll_offered {switches : List (Switch × Option SystemText)}
    (applied : settings.applyAll switches = .ok next)
    (offered : settings.IsOffered) : next.IsOffered := by
  induction switches generalizing settings with
  | nil =>
      cases applied
      exact offered
  | cons first rest induction =>
      rw [applyAll, List.foldlM_cons, Except.bind_eq_ok_iff] at applied
      obtain ⟨changed, first, later⟩ := applied
      exact induction later (apply_offered first offered)

end Settings

namespace Reading

variable {reading next : Reading}

theorem addInput_offered (text : SystemText)
    (offered : reading.settings.IsOffered) :
    (reading.addInput text).settings.IsOffered := by
  rw [addInput]
  split <;> exact offered

theorem addSwitches_offered {switches : List (Switch × Option SystemText)}
    (added : reading.addSwitches switches = .ok next)
    (offered : reading.settings.IsOffered) : next.settings.IsOffered := by
  rw [addSwitches, Except.bind_eq_ok_iff] at added
  obtain ⟨settings, applied, same⟩ := added
  cases same
  exact Settings.applyAll_offered applied offered

theorem addSwitch_offered {switch : Switch} {isLong taken : Bool}
    {attached operand : Option SystemText}
    (added : reading.addSwitch switch isLong attached operand =
      .ok (next, taken))
    (offered : reading.settings.IsOffered) : next.settings.IsOffered := by
  rw [addSwitch, Except.bind_eq_ok_iff] at added
  obtain ⟨cluster, _, added⟩ := added
  cases pending : cluster.pending with
  | none =>
      rw [pending] at added
      obtain ⟨later, applied, same⟩ := Except.bind_eq_ok_iff.mp added
      cases same
      exact addSwitches_offered applied offered
  | some last =>
      rw [pending] at added
      cases operand with
      | none => cases added
      | some value =>
          obtain ⟨later, applied, same⟩ := Except.bind_eq_ok_iff.mp added
          cases same
          exact addSwitches_offered applied offered

/-- All arguments. -/
theorem read_offered {arguments : List Argument}
    (reads : reading.read arguments = .ok next)
    (offered : reading.settings.IsOffered) : next.settings.IsOffered := by
  -- Most arguments leave the settings alone but for the input.
  induction reading, arguments using read.induct with
  | case1 reading =>
      cases reads
      exact offered
  | case2 reading text rest free induction =>
      rw [read, if_pos free] at reads
      exact induction reads (addInput_offered text offered)
  | case3 reading text rest taken induction =>
      rw [read, if_neg taken] at reads
      exact induction reads offered
  | case4 reading text rest apart induction =>
      rw [read] at reads
      · exact induction reads (addInput_offered text offered)
      · exact apart
  | case5 reading text rest free induction =>
      rw [read, if_pos free] at reads
      exact induction reads (addInput_offered text offered)
  | case6 reading text rest taken induction =>
      rw [read, if_neg taken] at reads
      exact induction reads offered
  | case7 reading rest apart induction =>
      rw [read] at reads
      · exact induction reads offered
      · exact apart
  | case8 reading text rest induction =>
      rw [read] at reads
      exact induction reads offered
  | case9 reading switch isLong attached text rest halt added =>
      rw [read, added] at reads
      cases reads
  | case10 reading switch isLong attached text rest later added induction =>
      rw [read, added] at reads
      exact induction reads (addSwitch_offered added offered)
  | case11 reading switch isLong attached text rest later added induction =>
      rw [read, added] at reads
      exact induction reads (addSwitch_offered added offered)
  | case12 reading switch isLong attached rest apart halt added =>
      rw [read, added] at reads
      · cases reads
      · exact apart
  | case13 reading switch isLong attached rest apart later taken added
      induction =>
      rw [read, added] at reads
      · exact induction reads (addSwitch_offered added offered)
      · exact apart

end Reading

namespace Settings

variable {settings : Settings} {arguments : List SystemText}

/-- Accepted arguments name an input, and a family that can be chosen, unless
its value is missing. -/
theorem offered_of_ofArguments
    (accepted : ofArguments arguments = .ok settings) :
    (∃ input, settings.input = some input) ∧ settings.IsOffered := by
  rw [ofArguments, Except.bind_eq_ok_iff] at accepted
  obtain ⟨classes, _, accepted⟩ := accepted
  obtain ⟨reading, reads, accepted⟩ := Except.bind_eq_ok_iff.mp accepted
  have start : IsOffered {} := by
    intro name member
    cases member
    exact List.mem_cons_self
  have offered := Reading.read_offered reads start
  cases given : reading.settings.input with
  | none =>
      rw [given] at accepted
      cases accepted
  | some input =>
      have same : reading.settings = settings := by
        simp only [given, Option.isNone_some] at accepted
        split at accepted
        · cases accepted
        · split at accepted
          · cases accepted
          · exact Except.ok.inj accepted
      rw [← same]
      exact ⟨⟨input, given⟩, offered⟩

/-- A family that can be chosen is known, so its name can only be missing. -/
theorem IsOffered.resolve (offered : settings.IsOffered) :
    (∃ chosen, (Selection.family settings.family).resolve = .ok chosen) ∨
      (Selection.family settings.family).resolve = .error .missingFamily := by
  cases given : settings.family with
  | none => exact .inr rfl
  | some name =>
      left
      have member := offered name (by rw [given]; rfl)
      simp only [families, Profile.all, List.map_cons, List.map_nil,
        List.mem_cons, List.not_mem_nil, or_false] at member
      rcases member with rfl | rfl | rfl
      · exact ⟨none, by rfl⟩
      · exact ⟨some .avr, by rfl⟩
      · exact ⟨some .i8085, by rfl⟩

theorem shipped_family (name : Option String) (profile : Profile) :
    Selection.family name = .profile profile → profile ∈ Profile.all := by
  intro same
  cases same

end Settings

end AsmGloss
