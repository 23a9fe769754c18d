import LoxFrontEnd.Proofs.ConsoleText
import LoxFrontEnd.Proofs.Indifference

/-!
# The chronicle of a console

What a console has written follows from what it has been told and from nothing else: it is the
diagnostics in order, each presented with the source begun last before it (`console_chronicle`).
Resets leave no trace in it. A run begins with its source, so what is written in a run does not
depend on what was told before.
-/
namespace LoxFrontEnd

/-- The source that an entry begins. -/
def Entry.begun? : Entry → Option Text
  | begin source _ => some source
  | emit _ | reset => none

/-- The source begun last, or an empty one. -/
def lastBegun (entries : List Entry) : Text := (entries.filterMap Entry.begun?).getLast?.getD []

/-- The diagnostics on record, each with the source begun last before it. -/
def attributed (entries : List Entry) : List (Text × Diagnostic) :=
  entries.zipIdx.filterMap fun p => p.1.diagnostic?.map (lastBegun (entries.take p.2), ·)

theorem lastBegun_concat (entries : List Entry) (entry : Entry) :
    lastBegun (entries ++ [entry]) = entry.begun?.getD (lastBegun entries) := by
  cases entry <;> simp [lastBegun, Entry.begun?]

/-- A new entry does not change what earlier diagnostics are about. -/
theorem attributed_concat (entries : List Entry) (entry : Entry) :
    attributed (entries ++ [entry]) =
      attributed entries ++ (entry.diagnostic?.map (lastBegun entries, ·)).toList := by
  rw [attributed, List.zipIdx_append, List.filterMap_append, attributed]
  congr 1
  · refine List.filterMap_congr fun p hp => ?_
    have hlt : p.2 < entries.length := by simpa using List.snd_lt_of_mem_zipIdx hp
    rw [List.take_append_of_le_length hlt.le]
  · cases h : entry.diagnostic? <;> simp [h]

/-- Diagnostics that follow a beginning are about the source begun. -/
theorem attributed_begin (source : Text) (hadError : Bool) (ds : List Diagnostic) :
    attributed (.begin source hadError :: ds.map .emit) = ds.map (source, ·) := by
  have hlast (ds : List Diagnostic) :
      lastBegun (.begin source hadError :: ds.map .emit) = source := by
    have hnone : (ds.map Entry.emit).filterMap Entry.begun? = [] := by
      simp [Entry.begun?]
    simp [lastBegun, Entry.begun?, hnone]
  induction ds using List.reverseRecOn with
  | nil => rfl
  | append_singleton ds d ih =>
    rw [List.map_append, ← List.cons_append, List.map_singleton, attributed_concat, ih, hlast]
    simp [Entry.diagnostic?]

/-- What no call breaks holds all through a session. -/
theorem forall_mem_session {ρ : Type} [Reporter ρ] {P : ρ → Prop}
    (hP : ∀ (r : ρ) (call : Call), P r → P (Reporter.handle r call)) {r : ρ} (hr : P r)
    (steps : List Step) : ∀ p ∈ session r steps, P p.2 := by
  have hagreement : Agreement fun r s : ρ => r = s ∧ P r :=
    { handle := fun h call => ⟨congrArg (Reporter.handle · call) h.1, hP _ call h.2⟩
      errorCount := fun h => congrArg Reporter.errorCount h.1 }
  have hsessions := hagreement.session ⟨rfl, hr⟩ steps
  intro p hp
  exact (List.forall₂_same.mp hsessions p hp).2.2

/-- Being on record changes nothing in a session. -/
theorem Overheard.map_session {ρ : Type} [Reporter ρ] (r : ρ) (steps : List Step) :
    (session (Overheard.of r) steps).map (fun p => (p.1, p.2.reporter)) = session r steps := by
  have hsessions := Overheard.agreement.session (rfl : (Overheard.of r).reporter = r) steps
  rw [← List.forall₂_eq_eq_eq, List.forall₂_map_left_iff]
  exact hsessions.imp fun p q hpq => Prod.ext hpq.1 hpq.2

namespace Console

/-- What a console writes about the diagnostics on record: their plain forms on lines of their own,
or each rendered from the source begun last before it. -/
def chronicle (style : Style) (origin : Text) (entries : List Entry) : Text :=
  match style with
  | .plain => (attributed entries).flatMap fun p => p.2.text ++ ['\n']
  | .pretty color => (attributed entries).flatMap fun p => p.2.render p.1 origin color

section

variable {channel : Channel} {style : Style} {origin : Text}

theorem chronicle_eq (style : Style) (origin : Text) (entries : List Entry) :
    chronicle style origin entries =
      (attributed entries).flatMap fun p => present style origin p.1 p.2 := by
  cases style <;> rfl

theorem chronicle_concat (entries : List Entry) (entry : Entry) :
    chronicle style origin (entries ++ [entry]) = chronicle style origin entries ++
      entry.diagnostic?.elim [] (present style origin (lastBegun entries)) := by
  rw [chronicle_eq, chronicle_eq, attributed_concat, List.flatMap_append]
  cases entry.diagnostic? <;> simp

/-- A source that is run by itself is written about in a report. -/
theorem chronicle_freshEntries (style : Style) (origin source : Text) :
    chronicle style origin (freshEntries source) = report style origin source := by
  rw [freshEntries, diagnostics_freshRun, chronicle_concat, chronicle_eq, attributed_begin,
    List.flatMap_map]
  exact List.append_nil _

/-- A console that was new once, and has written and remembers what its record calls for. A plain
console remembers no sources. -/
structure IsChronicled (channel : Channel) (style : Style) (origin : Text)
    (o : Overheard Console) : Prop where
  wrote : Wrote (.new channel style origin) (chronicle style origin o.entries) o.reporter
  source_eq : style ≠ .plain → o.reporter.source = lastBegun o.entries

theorem isChronicled_new :
    IsChronicled channel style origin (.of (.new channel style origin)) where
  wrote := by
    rw [chronicle_eq]
    exact .refl _
  source_eq _ := rfl

theorem IsChronicled.filter_log {o : Overheard Console} (h : IsChronicled channel style origin o) :
    o.reporter.log.filter = .off := by
  rw [h.wrote.log_eq]
  rfl

/-- A new entry asks for its diagnostic to be presented, and for its source to be remembered. -/
theorem IsChronicled.concat {o o' : Overheard Console} (h : IsChronicled channel style origin o)
    {entry : Entry} (hentries : o'.entries = o.entries ++ [entry])
    (hwrote : Wrote o.reporter
      (entry.diagnostic?.elim [] (present style origin (lastBegun o.entries))) o'.reporter)
    (hsource : style ≠ .plain → o'.reporter.source = entry.begun?.getD o.reporter.source) :
    IsChronicled channel style origin o' where
  wrote := by
    rw [hentries, chronicle_concat]
    exact h.wrote.trans hwrote
  source_eq hstyle := by
    rw [hentries, lastBegun_concat, hsource hstyle, h.source_eq hstyle]

/-- Whatever a console is told next, it writes and remembers what it has to. -/
theorem IsChronicled.handle {o : Overheard Console} (h : IsChronicled channel style origin o)
    (call : Call) : IsChronicled channel style origin (Reporter.handle o call) := by
  have hlog := h.filter_log
  have hstyle : o.reporter.style = style := h.wrote.style_eq
  cases call with
  | begin source =>
    refine h.concat rfl (wrote_begin o.reporter source) fun hne => ?_
    change (o.reporter.begin source).source = source
    rw [← hstyle] at hne
    unfold Console.begin
    split
    · rename_i hplain
      exact absurd hplain hne
    · rfl
  | emit d =>
    refine h.concat rfl ?_ fun _ => source_emit hlog d
    have hpresent : present style origin o.reporter.source d =
        present style origin (lastBegun o.entries) d := by
      cases hplain : style with
      | plain => rfl
      | pretty color => rw [h.source_eq (by simp [hplain])]
    have hwrote := wrote_emit hlog d
    have horigin : o.reporter.origin = origin := h.wrote.origin_eq
    rw [hstyle, horigin, hpresent] at hwrote
    exact hwrote
  | reset =>
    exact h.concat rfl ⟨rfl, rfl, rfl, (Channel.keep_nil _).symm⟩ fun _ => rfl
  | note event =>
    have hsame : Reporter.handle o (.note event) = o := by
      have hentries : o.entries ++ [] = o.entries := List.append_nil _
      have hreporter : Reporter.handle o.reporter (.note event) = o.reporter :=
        note_of_off hlog event
      change Overheard.mk (o.entries ++ []) (Reporter.handle o.reporter (.note event)) = o
      rw [hentries, hreporter]
    rwa [hsame]

end

/-- In a session of whatever steps, a console writes the diagnostics that it is handed in order,
each as its style presents it from the source begun last, and as many bytes of that as its channel
takes. Resets change neither what it has written nor the source it remembers, and what it writes in
a run depends on its style, its origin and the source that is run. -/
theorem console_chronicle (channel : Channel) (style : Style) (origin : Text)
    (steps : List Step) :
    let fresh := Console.new channel style origin
    (session (Overheard.of fresh) steps).map (fun p => (p.1, p.2.reporter)) =
      session fresh steps ∧
    ∀ p ∈ session (Overheard.of fresh) steps,
      let console := p.2.reporter
      let written := Utf8.encode (chronicle style origin p.2.entries)
      console.channel.kept.toList =
        channel.kept.toList ++ channel.room.elim written written.take ∧
      (style ≠ .plain → console.source = lastBegun p.2.entries) ∧
      (Reporter.handle console .reset).channel = console.channel ∧
      (Reporter.handle console .reset).source = console.source ∧
      ∀ (source : Text) (output : Channel),
        let written := Utf8.encode (chronicle style origin (freshEntries source))
        (run source console output).reporter.channel.kept.toList =
          console.channel.kept.toList ++ console.channel.room.elim written written.take := by
  intro fresh
  refine ⟨Overheard.map_session fresh steps, fun p hp => ?_⟩
  have hchronicled : IsChronicled channel style origin p.2 :=
    forall_mem_session (fun o call h => h.handle call) isChronicled_new steps p hp
  have hwrote := hchronicled.wrote
  refine ⟨?_, hchronicled.source_eq, rfl, rfl, fun source output => ?_⟩
  · rw [hwrote.channel_eq]
    exact Channel.kept_keep_eq _ _
  · have hrun := (wrote_run hchronicled.filter_log source output).channel_eq
    rw [hwrote.style_eq, hwrote.origin_eq] at hrun
    rw [hrun, chronicle_freshEntries]
    exact Channel.kept_keep_eq _ _

end Console

end LoxFrontEnd
