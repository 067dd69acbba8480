import AsmGloss.Proofs.Conversion.Completion

/-!
# Conversions that stop on the way

A listing is announced and decoded before its output is opened, and what the
output shows is known by then, except for one thing: whether the name of the
listing can be encoded.  So a conversion that fails, or is called off, leaves
the outputs of the listings before the one at which it stops, and nothing else,
unless the name of that listing has stray bytes and the format shows it.  Then
the output of this listing is there too, cut off before the name.  What comes
after the listing does not matter.
-/

namespace AsmGloss

/-- Writes some files one after the other. -/
def Workspace.writeAll (workspace : Workspace)
    (files : List (Path × Content)) : Except Fault Workspace :=
  files.foldlM (fun workspace file => workspace.write file.1 file.2) workspace

theorem Call.CutsOff.of_directory_eq {call : Call} {workspace final : Workspace}
    {outputs counted : Outputs} {kind : Format}
    (same : counted.directory = outputs.directory)
    (cuts : call.CutsOff { workspace, outputs := counted } kind final) :
    call.CutsOff { workspace, outputs } kind final := by
  obtain ⟨named, shows, stray, drafts, cut⟩ := cuts
  rw [target, Outputs.path, same] at cut
  exact ⟨named, shows, stray, drafts, cut⟩

namespace AttendedConversion

variable {Reason : Type} {listener : Listener Reason} {format : Option String}
variable {heard : List SystemText} {workspace : Workspace} {outputs : Outputs}

/-- How a conversion stops at a listing when it has reached a workspace: the
listener calls it off, the listing cannot be decoded, or its output cannot be
written.  All this leaves the workspace as it was, unless the output is cut
off. -/
inductive Halts (listener : Listener Reason) (format : Option String)
    (heard : List SystemText) (reached : Workspace) (outputs : Outputs)
    (entry : Path × Profile) : Stop Reason → Workspace → Prop where
  | calledOff {reason : Reason}
      (called : listener (heard ++ [Conversion.progress entry.1]) =
        some reason) :
      Halts listener format heard reached outputs entry (.calledOff reason)
        reached
  | undecoded {failure : Failure}
      (attended : listener (heard ++ [Conversion.progress entry.1]) = none)
      (fails : (DecodedListing.ofFile reached entry.1.text entry.2).result =
        .error failure) :
      Halts listener format heard reached outputs entry (.failed failure)
        reached
  | refused {failure : Failure} {records : List Record}
      (attended : listener (heard ++ [Conversion.progress entry.1]) = none)
      (decoded : (DecodedListing.ofFile reached entry.1.text entry.2).result =
        .ok records)
      (whole : ∀ kind final,
        ¬(Call.ofListing format entry.1 entry.2 records).CutsOff
          { workspace := reached, outputs } kind final) :
      Halts listener format heard reached outputs entry (.failed failure)
        reached
  | cutOff {found : StrayRun} {records : List Record} {kind : Format}
      {final : Workspace}
      (attended : listener (heard ++ [Conversion.progress entry.1]) = none)
      (decoded : (DecodedListing.ofFile reached entry.1.text entry.2).result =
        .ok records)
      (cuts : (Call.ofListing format entry.1 entry.2 records).CutsOff
        { workspace := reached, outputs } kind final)
      (replaces : reached.Replaces final (outputs.path entry.1 kind)
        (.ofText kind.opening)) :
      Halts listener format heard reached outputs entry
        (.failed (.output (.unencodable found))) final

theorem Halts.of_directory_eq {reached final : Workspace} {counted : Outputs}
    {entry : Path × Profile} {stop : Stop Reason}
    (same : counted.directory = outputs.directory)
    (halts : Halts listener format heard reached counted entry stop final) :
    Halts listener format heard reached outputs entry stop final := by
  cases halts with
  | calledOff called => exact .calledOff called
  | undecoded attended fails => exact .undecoded attended fails
  | refused attended decoded whole =>
      exact .refused attended decoded fun kind final cuts =>
        whole kind final (cuts.of_directory_eq same.symm)
  | cutOff attended decoded cuts replaces =>
      rw [Outputs.path, same] at replaces
      exact .cutOff attended decoded (cuts.of_directory_eq same) replaces

/-- A conversion stops at a listing, whichever come after it. -/
def StopsAt (listener : Listener Reason) (format : Option String)
    (heard : List SystemText) (workspace : Workspace) (outputs : Outputs)
    (entry : Path × Profile) : Prop :=
  ∃ journal stop final,
    Halts listener format heard workspace outputs entry stop final ∧
    ∀ others,
      ofListings listener format heard workspace outputs (entry :: others) =
        .stopped final entry.1 journal stop

/-- A conversion writes the output of a listing, whichever come after it, and
goes on with those. -/
structure GoesOn (listener : Listener Reason) (format : Option String)
    (heard : List SystemText) (workspace : Workspace) (outputs : Outputs)
    (entry : Path × Profile) (kind : Format) (next : Workspace)
    (counted : Outputs) : Prop where
  known : Outputs.format format = .ok kind
  step : Conversion.Step workspace outputs kind entry.1 entry.2 next counted
  same : ∃ journal path, ∀ others,
    ofListings listener format heard workspace outputs (entry :: others) =
      .after journal [Conversion.progress entry.1] [path]
        (ofListings listener format (heard ++ [Conversion.progress entry.1])
          next counted others)

theorem stopsAt_or_goesOn (listener : Listener Reason)
    (format : Option String) (heard : List SystemText) (workspace : Workspace)
    (outputs : Outputs) {entry : Path × Profile}
    (read : Path.ofText entry.1.text = entry.1) :
    StopsAt listener format heard workspace outputs entry ∨
      ∃ kind next counted,
        GoesOn listener format heard workspace outputs entry kind next
          counted := by
  obtain ⟨listing, profile⟩ := entry
  cases called : listener (heard ++ [Conversion.progress listing]) with
  | some reason =>
      refine .inl ⟨[], .calledOff reason, workspace, .calledOff called,
        fun others => ?_⟩
      simp only [ofListings_cons, called]
  | none =>
      let journal :=
        (DecodedListing.ofFile workspace listing.text profile).journal
      cases decoded : (DecodedListing.ofFile workspace listing.text
          profile).result with
      | error failure =>
          refine .inl ⟨journal, .failed failure, workspace,
            .undecoded called decoded, fun others => ?_⟩
          simp only [ofListings_cons, called, decoded, journal]
      | ok records =>
          let call := Call.ofListing format listing profile records
          have serves := call.steps_serves { workspace, outputs }
          cases served : call.steps.outcome { workspace, outputs } with
          | mk result desk =>
              rw [served] at serves
              -- Only the last of the three ways to be served goes on.
              cases serves with
              | @refused failure _ whole =>
                  refine .inl ⟨journal, .failed failure, workspace,
                    .refused called decoded whole, fun others => ?_⟩
                  simp only [ofListings_cons, called, decoded, journal, call,
                    served]
              | @cutOff found kind final cuts replaces =>
                  rw [Call.target_ofListing read] at replaces
                  refine .inl ⟨journal, .failed (.output (.unencodable found)),
                    final, .cutOff called decoded cuts replaces,
                    fun others => ?_⟩
                  simp only [ofListings_cons, called, decoded, journal, call,
                    served]
              | @written kind content next writes _ =>
                  let path := call.target outputs kind
                  refine .inr ⟨kind, next, _, writes.named,
                    Conversion.step_of_writes read decoded writes,
                    Conversion.announced listing :: journal
                      ++ [Conversion.written path records], path,
                    fun others => ?_⟩
                  simp only [ofListings_cons, called, decoded, journal, call,
                    served]
                  rfl

/-- The path of the output of a listing, and what is shown of the listing. -/
def OutputOf (workspace : Workspace) (outputs : Outputs)
    (format : Option String) (entry : Path × Profile)
    (output : Path × Content) : Prop :=
  ∃ kind, Outputs.format format = .ok kind ∧
    output.1 = outputs.path entry.1 kind ∧
    Conversion.Renders workspace kind entry output.2

/-- Where a conversion stops, and what it leaves: the messages up to the listing
at which it stops, the outputs of those before, as they are shown at the start,
and what is left of the output of this one. -/
structure Stops (listener : Listener Reason) (format : Option String)
    (heard : List SystemText) (start workspace : Workspace) (outputs : Outputs)
    (before : List (Path × Profile)) (entry : Path × Profile)
    (after : List (Path × Profile)) (written : List (Path × Content))
    (reached : Workspace) (stop : Stop Reason) : Prop where
  shown : List.Forall₂ (OutputOf start outputs format) before written
  reaches : workspace.writeAll written = .ok reached
  halts : Halts listener format
    (heard ++ before.map (Conversion.progress ·.1)) reached outputs entry stop
    (ofListings listener format heard workspace outputs
      (before ++ entry :: after)).workspace
  messages : (ofListings listener format heard workspace outputs
    (before ++ entry :: after)).messages =
      (before ++ [entry]).map (Conversion.progress ·.1)
  apart : ∀ others,
    ofListings listener format heard workspace outputs
        (before ++ entry :: others) =
      ofListings listener format heard workspace outputs
        (before ++ entry :: after)

variable {start next reached : Workspace} {counted : Outputs} {kind : Format}
variable {entry : Path × Profile} {directory : Path} {names : List SystemText}
variable {before rest listings : List (Path × Profile)}
variable {written : List (Path × Content)} {stop : Stop Reason}

theorem OutputOf.of_directory_eq {output : Path × Content}
    (of : OutputOf workspace counted format entry output)
    (same : counted.directory = outputs.directory) :
    OutputOf workspace outputs format entry output := by
  obtain ⟨kind, known, beside, shown⟩ := of
  rw [Outputs.path, same] at beside
  exact ⟨kind, known, beside, shown⟩

theorem stops_of_stopsAt
    (stops : StopsAt listener format heard workspace outputs entry)
    (stopped : (ofListings listener format heard workspace outputs
      (entry :: rest)).result = .error stop) :
    Stops listener format heard start workspace outputs [] entry rest []
      workspace stop := by
  obtain ⟨journal, why, final, halts, same⟩ := stops
  rw [same] at stopped
  cases stopped
  refine ⟨.nil, rfl, ?_, ?_, fun others => ?_⟩
  · rw [List.nil_append, same, List.map_nil, List.append_nil]
    exact halts
  · rw [List.nil_append, same]
    rfl
  · rw [List.nil_append, List.nil_append, same, same]

/-- A listing that is converted adds its message and its output. -/
theorem GoesOn.stops {first : Path × Profile} {output : Content}
    (goesOn : GoesOn listener format heard workspace outputs first kind next
      counted)
    (renders : Conversion.Renders start kind first output)
    (writes : workspace.write (outputs.path first.1 kind) output = .ok next)
    (stops : Stops listener format
      (heard ++ [Conversion.progress first.1]) start next counted before entry
      rest written reached stop) :
    Stops listener format heard start workspace outputs (first :: before) entry
      rest ((outputs.path first.1 kind, output) :: written) reached stop := by
  obtain ⟨journal, path, same⟩ := goesOn.same
  refine ⟨.cons ⟨kind, goesOn.known, rfl, renders⟩ ?_, ?_, ?_, ?_,
    fun others => ?_⟩
  · exact stops.shown.imp fun _ _ of =>
      of.of_directory_eq goesOn.step.directory
  · have later := stops.reaches
    rw [Workspace.writeAll] at later ⊢
    rw [List.foldlM_cons, writes]
    exact later
  · have halts := stops.halts.of_directory_eq goesOn.step.directory
    rw [List.append_assoc] at halts
    rw [List.cons_append, same]
    exact halts
  · rw [List.cons_append, same, Conversion.after, stops.messages]
    rfl
  · rw [List.cons_append, List.cons_append, same, same, stops.apart others]

theorem after_result_eq_error {journal : Journal} {messages : List SystemText}
    {paths : List Path} {later : AttendedConversion Reason}
    (stopped : (Conversion.after journal messages paths later).result =
      .error stop) :
    later.result = .error stop := by
  rw [Conversion.after] at stopped
  cases result : later.result with
  | ok found =>
      rw [result] at stopped
      cases stopped
  | error found =>
      rw [result] at stopped
      exact stopped

/-- A conversion of some listings that stops has written the outputs of those
before one of them. -/
theorem exists_stops_of_stopped
    (lists : ∀ entry ∈ listings, Discovery.Lists start directory entry.1)
    (keeps : start.Keeps names workspace)
    (fileNames : Format.AreFileNames names)
    (stopped : (ofListings listener format heard workspace outputs
      listings).result = .error stop) :
    ∃ before entry rest written reached, listings = before ++ entry :: rest ∧
      Stops listener format heard start workspace outputs before entry rest
        written reached stop := by
  induction listings generalizing heard workspace outputs names with
  | nil => cases stopped
  | cons first others induction =>
      have listed := lists first List.mem_cons_self
      rcases stopsAt_or_goesOn listener format heard workspace outputs
        listed.isRead with stops | ⟨kind, next, counted, goesOn⟩
      · exact ⟨[], first, others, [], workspace, rfl,
          stops_of_stopsAt stops stopped⟩
      · obtain ⟨journal, path, same⟩ := goesOn.same
        rw [same] at stopped
        obtain ⟨content, shown, writes⟩ := goesOn.step.written
        obtain ⟨before, entry, rest, written, reached, rfl, stops⟩ := induction
          (fun entry member => lists entry (List.mem_cons_of_mem _ member))
          (keeps.trans goesOn.step.leaves.1)
          (fileNames.append (kind.areFileNames_singleton first.1.stem))
          (after_result_eq_error stopped)
        -- What was written up to here is no listing, so this one still shows
        -- what it showed at the start.
        have renders : Conversion.Renders start kind first content :=
          (Conversion.renders_iff_of_keeps listed keeps fileNames).mp shown
        exact ⟨first :: before, entry, rest, _, reached, rfl,
          goesOn.stops renders writes stops⟩

section Runs

variable {input : SystemText} {folder : Option SystemText}
variable {selection : Selection} {ready : Workspace}

/-- A conversion that fails, or is called off, once it has found its listings
and prepared its outputs stops at one of the listings.  It has announced the
listings up to this one, and has written the outputs of those before it, as they
are shown at the start.  The one at which it stops has changed nothing, unless
its output is cut off before its name; the listings after it do not matter. -/
theorem run_stops
    (shipped : ∀ profile, selection = .profile profile →
      profile ∈ Profile.all)
    (named : workspace.IsNamed)
    (finds : Discovery.listings workspace input selection = .ok listings)
    (prepared : Outputs.prepare workspace folder = (ready, .ok outputs))
    (stopped : (run listener workspace input folder format selection).result =
      .error stop) :
    ∃ before entry rest written reached,
      listings = before ++ entry :: rest ∧
      (run listener workspace input folder format selection).messages =
        (before ++ [entry]).map (Conversion.progress ·.1) ∧
      List.Forall₂ (OutputOf workspace outputs format) before written ∧
      ready.writeAll written = .ok reached ∧
      Halts listener format (before.map (Conversion.progress ·.1)) reached
        outputs entry stop
        (run listener workspace input folder format selection).workspace ∧
      ∀ others,
        ofListings listener format [] ready outputs
            (before ++ entry :: others) =
          run listener workspace input folder format selection := by
  obtain ⟨_, directory, lists⟩ :=
    Discovery.exists_lists_of_listings shipped named finds
  have keeps := Conversion.prepare_keeps workspace folder
  rw [prepared] at keeps
  rw [run_eq finds prepared] at stopped ⊢
  obtain ⟨before, entry, rest, written, reached, rfl, stops⟩ :=
    exists_stops_of_stopped lists keeps Format.areFileNames_nil stopped
  exact ⟨before, entry, rest, written, reached, rfl, stops.messages,
    stops.shown, stops.reaches, stops.halts, stops.apart⟩

/-- A listing whose name has a stray byte, beside an older output of it. -/
def strayListing : Workspace :=
  { entries := .ofList
      [([.stray 0x64 :: ".lss"], .file (.bytes [])),
        ([.stray 0x64 :: ".md"], .file (.bytes [0x6F]))] }

/-- The older output of a listing with a stray byte in its name is emptied. -/
theorem run_stops_stray :
    ∃ written reached,
      written.length = 0 ∧ strayListing.writeAll written = .ok reached ∧
      reached.node? [.stray 0x64 :: ".md"] = some (.file (.bytes [0x6F])) ∧
      (run (fun _ => (none : Option Unit)) strayListing (.stray 0x64 :: ".lss")
        none (some "md") .automatic).workspace.node? [.stray 0x64 :: ".md"] =
          some (.file (.bytes [])) := by
  have shipped : ∀ profile, Selection.automatic = .profile profile →
      profile ∈ Profile.all := by
    simp
  have named : strayListing.IsNamed := ⟨by decide, by decide +kernel⟩
  have finds : Discovery.listings strayListing (.stray 0x64 :: ".lss")
      .automatic = .ok [(.ofText (.stray 0x64 :: ".lss"), .avr)] := by
    have placed : strayListing.place (.ofText (.stray 0x64 :: ".lss")) =
        .file [.stray 0x64 :: ".lss"] (.bytes []) := by
      decide +kernel
    rw [Discovery.listings]
    simp only [Selection.resolve, bind, Except.bind, placed]
    rfl
  have prepared : Outputs.prepare strayListing none =
      (strayListing, .ok {}) := rfl
  let listener : Listener Unit := fun _ => none
  have stopped : (run listener strayListing (.stray 0x64 :: ".lss") none
      (some "md") .automatic).result =
        .error (.failed (.output (.unencodable ⟨2, [.stray 0x64]⟩))) := by
    rw [run_eq finds prepared]
    decide +kernel
  obtain ⟨before, entry, rest, written, reached, split, _, shown, reaches, _⟩ :=
    run_stops shipped named finds prepared stopped
  have nothing : before = [] := by
    cases before with
    | nil => rfl
    | cons first others => simp at split
  subst nothing
  cases shown
  cases reaches
  refine ⟨[], strayListing, rfl, rfl, by decide +kernel, ?_⟩
  rw [run_eq finds prepared]
  decide +kernel

end Runs

end AttendedConversion

end AsmGloss
