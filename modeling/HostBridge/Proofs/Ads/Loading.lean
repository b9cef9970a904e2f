import HostBridge.Proofs.Ads.Catalogue
import HostBridge.Proofs.Ads.Reading
import HostBridge.Proofs.Bridge.Outcomes

set_option autoImplicit false

namespace HostBridge.Ads

def loadEvent (format : Format) (requestId : Int) (adUnitId : String) {β : Type} :
    Answer β → AdEvent
  | .given _ => .plain format requestId adUnitId .loaded
  | .refused e => .failed format requestId adUnitId e.code e.message
  | .brokeOff breakage =>
    .failed format requestId adUnitId "bridge/panic" breakage.message

def loadWork (format : Format) (requestId : Int) (adUnitId : String) (options : RequestOptions) :
    Work Backend Act :=
  asking (.load format requestId adUnitId options) fun r =>
    ([.published (loadOutcome format requestId adUnitId r)], .ok .undefined)

def loadHook (format : Format) (requestId : Int) (adUnitId : String) : Hook Act :=
  ⟨fun f => [.published (loadFailure format requestId adUnitId f)], fun _ _ => false⟩

theorem load_handled (format : Format) (x : Binary64) (adUnitId : String)
    (fields : KeyMap Value) :
    loadHandler format [.number x, .string adUnitId, .object fields] =
      match requestIdOf x, decoded RequestOptions 2 (.object fields) with
      | .error f, _ => ⟨[], .error f⟩
      | .ok requestId, .error f =>
        ⟨[.published (loadFailure format requestId adUnitId f)], .ok .done⟩
      | .ok requestId, .ok options =>
        ⟨[], .ok (.detached (loadWork format requestId adUnitId options)
          (loadHook format requestId adUnitId))⟩ := by
  unfold loadHandler
  rw [request_id_read, string_read _ 1 adUnitId rfl,
    options_read RequestOptions _ 2 (.object fields) rfl (Or.inr ⟨fields, rfl⟩)]
  cases requestIdOf x with
  | error f => rfl
  | ok requestId =>
    simp only [Reaction.reading]
    cases decoded RequestOptions 2 (.object fields) <;> rfl

-- Whatever a backend answers, its event is published by the work or by the hook, never by both.
theorem load_shows (format : Format) (requestId : Int) (adUnitId : String)
    (options : RequestOptions) (id : JobId) (origin thread : String) (backend : Backend) :
    let call := Call.load format requestId adUnitId options
    let work := loadWork format requestId adUnitId options
    let job : Job Backend Act :=
      ⟨id, work, .detached origin (some (loadHook format requestId adUnitId))⟩
    work.opening ++ (work.closing thread backend).1 ++
        job.reaction (work.closing thread backend).2.outcome =
      [.called call, .published (loadEvent format requestId adUnitId (backend call))] := by
  simp only [loadWork, asking]
  cases backend (.load format requestId adUnitId options) <;> rfl

section Built

variable {config : Config} {processors : Nat} {b : Bridge Backend Act}
  {start : Host Backend Act} (built : build config processors = .ok (b, start))

include built

theorem load_resolves (format : Format) : b.resolve format.moduleName s!"{format.stem}Load" =
    .ok ⟨s!"{format.stem}Load", loadSignature, loadHandler format⟩ := by
  obtain ⟨m, made⟩ := (all_offered built).1 format
  exact method_resolves built format.moduleName _ m made (Or.inl ⟨format, made⟩) _ (.head _)

theorem load_publishes_one_event (c : Invocation b start) (format : Format)
    (module : c.module = format.moduleName) (method : c.method = s!"{format.stem}Load")
    (void : c.reply = some (.ok .void)) (closed : c.last.pool.phase = .closed) :
    ∃ x requestId adUnitId fields rest,
      c.args = .number x :: .string adUnitId :: .object fields :: rest ∧
        x.toInt32? = some requestId ∧
        match decoded RequestOptions 2 (.object fields), c.host.pool.refusal? with
        | .error f, _ => f.code = "googleMobileAds/invalid-options" ∧
            c.effects = [.published (.failed format requestId adUnitId f.code f.message)]
        | .ok _, some f => (f = .queueFull ∨ f = .poolClosed) ∧
            c.effects = [.published (.failed format requestId adUnitId f.code f.message)]
        | .ok options, none => ∃ worker backend,
            Answered b.step? .finish c.next c.after c.host.pool.submitted worker backend ∧
              c.effects = [.called (.load format requestId adUnitId options),
                .published (loadEvent format requestId adUnitId
                  (backend (.load format requestId adUnitId options)))] := by
  obtain ⟨all, _, _, rfl⟩ := build_put built
  have harmless := bridge_harmless built
  obtain ⟨found, bound, reached⟩ := c.reached_of_reply .void void
  obtain ⟨resolved, fits⟩ := b.resolve_of_target _ _ _ found bound reached
  rw [module, method, load_resolves built format] at resolved
  cases resolved
  obtain ⟨x, adUnitId, fields, rest, given, rfl⟩ := load_binds c.args bound fits
  have handled := load_handled format x adUnitId fields
  cases truncated : requestIdOf x with
  | error f =>
    rw [truncated] at handled
    rw [c.failed_reply _ _ _ reached rfl f handled] at void
    cases void
  | ok requestId =>
    refine ⟨x, requestId, adUnitId, fields, rest, given, request_id_some x requestId truncated, ?_⟩
    cases read : decoded RequestOptions 2 (.object fields) with
    | error f =>
      rw [truncated, read] at handled
      exact ⟨decoded_error _ _ _ f read, c.done_at_once _ _ _ reached rfl _ handled⟩
    | ok options =>
      rw [truncated, read] at handled
      obtain ⟨_, submits⟩ := c.submits_detached _ _ _ reached rfl _ _ (fun _ _ => rfl) handled
      obtain ⟨outcome, _, ended⟩ := submits.concludes c harmless closed
      cases refused : c.host.pool.refusal? with
      | some f =>
        rw [refused] at ended
        exact ⟨refusal_grounds c.host.pool f refused, ended.2⟩
      | none =>
        rw [refused] at ended
        obtain ⟨worker, backend, answered, _, effects⟩ := ended
        exact ⟨worker, backend, answered, effects.trans (load_shows _ _ _ options _ _ _ backend)⟩

end Built

def sampleLoad : Invocation sampleAds.1 sampleAds.2 :=
  servedCall Format.appOpen.moduleName s!"{Format.appOpen.stem}Load"
    [.number (.ofInt 7), .string "unit", .object []] sulking (by decide +kernel)

set_option maxRecDepth 4000 in
theorem sample_load_publishes : sampleLoad.effects =
      [.called (.load .appOpen 7 "unit" Decodable.blank),
        .published (.failed .appOpen 7 "unit" "no-fill" "no ad to show")] ∧
    ∃ x requestId adUnitId fields rest,
      sampleLoad.args = .number x :: .string adUnitId :: .object fields :: rest ∧
        x.toInt32? = some requestId ∧
        match decoded RequestOptions 2 (.object fields), sampleLoad.host.pool.refusal? with
        | .error f, _ => f.code = "googleMobileAds/invalid-options" ∧
            sampleLoad.effects = [.published (.failed .appOpen requestId adUnitId f.code f.message)]
        | .ok _, some f => (f = .queueFull ∨ f = .poolClosed) ∧
            sampleLoad.effects = [.published (.failed .appOpen requestId adUnitId f.code f.message)]
        | .ok options, none => ∃ worker backend,
            Answered sampleAds.1.step? .finish sampleLoad.next sampleLoad.after
              sampleLoad.host.pool.submitted worker backend ∧
              sampleLoad.effects = [.called (.load .appOpen requestId adUnitId options),
                .published (loadEvent .appOpen requestId adUnitId
                  (backend (.load .appOpen requestId adUnitId options)))] :=
  ⟨rfl, load_publishes_one_event sample_built sampleLoad .appOpen rfl rfl rfl (by decide +kernel)⟩

end HostBridge.Ads
