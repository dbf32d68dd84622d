import Montage.Command
import Montage.Proofs.Report

/-!
# What operations give, without what they tell

The operations on compositions, tracks and manifests are the results of their reports. Each equation
here says what the result is in terms of the results of the operations that it is put together from,
so that no proof about results has to go through a report.
-/

namespace Montage

/-! ## Content -/

namespace Content

/-- A visit adds something to the content by the kind of its node. -/
theorem add_eq (content : Content) (visit : Visit) :
    content.add visit =
      match visit.node with
      | .group .. => .ok content
      | .clip own afterParentEntry => do
        let clip ← own.placeIn visit.context afterParentEntry content.clips.length
        return { content with clips := content.clips ++ [clip] }
      | .mark own => do
        let anchor ← own.placeIn visit.context
        return { content with anchors := Table.insert own.anchorId anchor content.anchors }
      | .leaf own => do
        let registration? ← own.register? visit.scene
        return { content with heroes := content.heroes ++ registration?.toList } := by
  rw [add, reportAdd]
  cases visit.node <;>
    simp only [Report.result_bind, Report.result_tell, Report.result_liftM, Report.result_pure]
  all_goals rfl

theorem ofVisits_eq (visits : List Visit) : ofVisits visits = visits.foldlM add empty :=
  Report.result_foldlM reportAdd empty visits

end Content

/-! ## Tracks -/

namespace Track

variable (anchors : Table Anchor) (strict : Bool)

/-- A track is resolved as far as its references are usable. One without references is left as it
is, which is what the general case gives as well. -/
theorem resolveSync_eq (track : Track) :
    track.resolveSync anchors strict =
      match track.sync with
      | none => .ok track
      | some sync =>
        match strict, sync.unusable anchors with
        | true, name :: _ => .error (.unresolved (.anchor name))
        | _, _ =>
          match sync.startFrame? anchors, sync.stopFrame? anchors with
          | none, none => .ok track
          | start?, stop? => track.place sync start? stop? := by
  rw [resolveSync, reportSync]
  rcases track.sync with _ | sync
  · rfl
  · dsimp only
    split
    · -- no reference, so none is missing and none is usable
      rename_i hreference
      obtain ⟨hstart, hstop⟩ : sync.startAnchor = none ∧ sync.endAnchor = none := by
        simpa [Sync.hasReference] using hreference
      simp [Sync.unusable, Sync.startFrame?, Sync.stopFrame?, hstart, hstop]
    · rw [Report.result_bind, Report.result_tell]
      have hplace (start? stop? : Option Int) : (do
          let placed ← track.place sync start? stop?
          Report.tell (track.placedNotes placed)
          return placed : Report Track).result = track.place sync start? stop? := by
        rcases hplaced : track.place sync start? stop? with failure | placed <;> rfl
      -- both sides branch on the same four things, and only what places a track tells more after it
      cases strict <;> cases sync.unusable anchors <;> cases sync.startFrame? anchors <;>
        cases sync.stopFrame? anchors <;> first | rfl | exact hplace _ _

/-- Tracks are resolved one after the other, each on its own. -/
theorem resolveAll_eq (tracks : List Track) :
    resolveAll anchors strict tracks = tracks.mapM (resolveSync anchors strict) :=
  Report.result_mapM (reportSync anchors strict) tracks

end Track

/-! ## Heroes -/

namespace Registry

theorem result_reportList {α : Type} (registrations : List (Registration α)) :
    (reportList registrations).result = .ok (ofList registrations) := by
  rw [reportList, Report.result_foldlM]
  exact List.foldlM_pure

end Registry

/-! ## Compositions -/

namespace Composition

variable (extra : Table Anchor) (strict : Bool) (composition : Composition)

theorem content_eq : composition.content = Content.ofVisits composition.visits := rfl

/-- A resolution collects the content, places the tracks and puts both on the timeline. -/
theorem resolve_eq :
    composition.resolve extra strict = do
      let content ← composition.content
      let anchors := composition.anchorTable extra content
      let totalFrames := PlacedScene.lastStop composition.assembled
      let tracks ← Track.resolveAll anchors strict composition.allTracks
      return {
        fps := composition.fps
        width := composition.width
        height := composition.height
        totalFrames := totalFrames
        scenes := composition.assembled
        tracks := tracks.map (Track.fillDuration totalFrames)
        clips := content.clips
        anchors := anchors } := by
  simp only [resolve, reportResolve, Report.result_bind, Report.result_tell, Report.result_pure]
  rfl

/-- The heroes of a composition are those of its content. -/
theorem heroes_eq :
    composition.heroes = do return Registry.ofList (← composition.content).heroes := by
  simp only [heroes, reportHeroes, Report.result_bind, Registry.result_reportList]
  rfl

end Composition

/-! ## Commands -/

/-- A command is made from the graph that the timeline is compiled to. -/
theorem Command.ofTimeline_eq (program : String) (timeline : Timeline) (encoding : Encoding)
    (outputPath : String) :
    ofTimeline program timeline encoding outputPath =
      (Graph.compile timeline encoding).map (ofGraph program encoding outputPath) := by
  rw [ofTimeline, reportTimeline, Report.result_bind]
  rcases hgraph : Graph.compile timeline encoding with failure | graph <;>
    rw [Graph.compile] at hgraph <;> rw [hgraph] <;> rfl

/-- A manifest is resolved and the timeline made into a command. -/
theorem Manifest.compile_eq (settings : Settings) (extra : Table Anchor) (program : String)
    (strict : Bool) (manifest : Manifest) :
    manifest.compile settings extra program strict =
      manifest.timeline extra strict >>= fun timeline =>
        Command.ofTimeline (Text.orElse program settings.encoder) timeline
          (manifest.resolvedEncoding settings.audioBitrate) manifest.outputPath :=
  Report.result_bind _ _

end Montage
