import Gridlines.Command.Run
import Gridlines.Proofs.Http.Outcomes
import Gridlines.Proofs.Json.Layouts

/-!
# The commands and the service agree

A command loads the file that its settings name and prints a value on many lines.  A service that
has loaded the same file, at whatever time, replies with the same value without blanks; only a
summary says when the dataset was built.

* `Dataset.load_eq_map` : files give the same dataset at any two times, but for the time itself.
* `Command.agreement` : what the commands print, what the service replies, and what stops both.
-/

namespace Gridlines

/-! ### Datasets at two times -/

/-- The dataset, built at another time. -/
def Dataset.builtAt (d : Dataset) (now : String) : Dataset := { d with loadedAt := now }

/-- The summary of a dataset that was built at another time. -/
def Summary.builtAt (s : Summary) (now : String) : Summary := { s with loadedAt := now }

namespace Dataset

theorem execute_builtAt (d : Dataset) (now : String) (intent : Intent) :
    (d.builtAt now).execute intent = d.execute intent := by
  cases intent <;> rfl

theorem summary_builtAt (d : Dataset) (now : String) (top : Nat) :
    (d.builtAt now).summary top = (d.summary top).builtAt now := rfl

theorem ofDocument_eq_map (now later : String) (doc : Document) :
    ofDocument later doc = (ofDocument now doc).map (·.builtAt later) := by
  unfold ofDocument
  cases doc.type with
  | none => rfl
  | some type =>
    by_cases htype : type = "FeatureCollection"
    · simp only [htype, if_true]
      rfl
    · simp only [if_neg htype]
      rfl

/-- The time says when a dataset was built, and nothing else. -/
theorem load_eq_map (now later : String) (files : Files) (path : String) :
    load later files path = (load now files path).map (·.builtAt later) := by
  unfold load read
  cases files.readText path with
  | error e => rfl
  | ok s =>
    cases hdoc : documentShape.decoder.run s with
    | error e => simp only [hdoc]; rfl
    | ok doc => simp only [hdoc, ofDocument_eq_map now later doc]

variable {now path : String} {files : Files} {d : Dataset}

theorem builtAt_of_load (h : load now files path = .ok d) : d.builtAt now = d := by
  have hmap := load_eq_map now now files path
  rw [h] at hmap
  exact (Except.ok.inj hmap).symm

/-- An empty slot takes the dataset of a file, with the time of its own load. -/
theorem empty_load_of_load (h : load now files path = .ok d) (later : String) :
    Slot.empty.load later files path = .loaded (d.builtAt later) := by
  have hload : load later files path = .ok (d.builtAt later) := by
    rw [load_eq_map now, h]
    rfl
  simp only [Slot.load, hload]
  rfl

end Dataset

namespace Command

variable {world : World} {path : String} {config : Config} {d : Dataset}

/-! ### The commands -/

theorem loadDataset_of_load (h : Dataset.load world.now world.files config.dataFile = .ok d) :
    loadDataset world config = .ok d := by
  rw [loadDataset, h]
  rfl

theorem resolveConfig_of_resolve (h : Config.resolve world.files path = .ok config) :
    resolveConfig world path = .ok config := by
  rw [resolveConfig, h]
  rfl

theorem run_query (hconfig : Config.resolve world.files path = .ok config)
    (hd : Dataset.load world.now world.files config.dataFile = .ok d) (text : String) :
    run world (.query path text) = .printed (document (Response.toJson
      ⟨(d.execute (.ofQuery text)).text, (d.execute (.ofQuery text)).features⟩)) := by
  rw [run, runQuery, resolveConfig_of_resolve hconfig, Json.ok_bind, loadDataset_of_load hd]
  rfl

theorem run_info (hconfig : Config.resolve world.files path = .ok config)
    (hd : Dataset.load world.now world.files config.dataFile = .ok d) :
    run world (.info path) = .printed (document (d.summary Http.infoSamples).toJson) := by
  rw [run, runInfo, resolveConfig_of_resolve hconfig, Json.ok_bind, loadDataset_of_load hd]
  rfl

theorem run_of_resolve_error {e : Config.Error} (h : Config.resolve world.files path = .error e)
    {command : Command} (hcommand : command = .info path ∨ ∃ text, command = .query path text) :
    run world command = .failed (.config e.message) := by
  have hresolve : resolveConfig world path = .error (.config e.message) := by
    rw [resolveConfig, h]
    rfl
  rcases hcommand with rfl | ⟨text, rfl⟩
  · rw [run, runInfo, hresolve]
    rfl
  · rw [run, runQuery, hresolve]
    rfl

theorem run_of_load_error (hconfig : Config.resolve world.files path = .ok config)
    {e : Dataset.LoadError} (h : Dataset.load world.now world.files config.dataFile = .error e)
    {command : Command} (hcommand : command = .info path ∨ ∃ text, command = .query path text) :
    run world command = .failed (.ofLoadError e) := by
  have hload : loadDataset world config = .error (.ofLoadError e) := by
    rw [loadDataset, h]
    rfl
  rcases hcommand with rfl | ⟨text, rfl⟩
  · rw [run, runInfo, resolveConfig_of_resolve hconfig, Json.ok_bind, hload]
    rfl
  · rw [run, runQuery, resolveConfig_of_resolve hconfig, Json.ok_bind, hload]
    rfl

/-! ### The service on the same file -/

/-- The commands at a path of settings agree with any service that has loaded the same file. -/
structure Agreement (world : World) (path : String) : Prop where
  /-- The printed answer is the reply to the question in its written form, but for blanks. -/
  query : ∀ config d, Config.resolve world.files path = .ok config →
    Dataset.load world.now world.files config.dataFile = .ok d → ∀ text, ∃ out,
      run world (.query path text) = .printed out ∧
      ∀ (server : Http.Server) (now : String) (r : Http.Request), r.Sends ⟨text⟩ →
        (server.respond (Slot.empty.load now world.files config.dataFile) r).status = 200 ∧
        (server.respond (Slot.empty.load now world.files config.dataFile) r).body =
          Json.withoutBlanks out
  /-- The printed summary is the one in the reply, but for blanks and for the time of loading. -/
  info : ∀ config d, Config.resolve world.files path = .ok config →
    Dataset.load world.now world.files config.dataFile = .ok d → ∃ out s,
      run world (.info path) = .printed out ∧
      Json.withoutBlanks out = (Summary.builtAt s world.now).toJson.compact ∧
      ∀ (server : Http.Server) (now : String) (r : Http.Request), r.Calls "GET" .info →
        (server.respond (Slot.empty.load now world.files config.dataFile) r).status = 200 ∧
        (server.respond (Slot.empty.load now world.files config.dataFile) r).body =
          (s.builtAt now).toJson.compact
  /-- A question whose written form is not too long can be posted. -/
  sends : ∀ text,
    Symbol.totalSize (Symbol.ofString (Question.toJson ⟨text⟩).compact) ≤ Http.bodyLimit →
      ∃ r : Http.Request, r.Sends ⟨text⟩
  /-- Settings that cannot be used stop both commands before they print anything, -/
  unresolved : ∀ e, Config.resolve world.files path = .error e → ∀ command : Command,
    (command = .info path ∨ ∃ text, command = .query path text) →
      run world command = .failed (.config e.message) ∧ (run world command).stdout = ""
  /-- and so does a file that is no dataset. -/
  unloaded : ∀ config e, Config.resolve world.files path = .ok config →
    Dataset.load world.now world.files config.dataFile = .error e → ∀ command : Command,
    (command = .info path ∨ ∃ text, command = .query path text) →
      run world command = .failed (.ofLoadError e) ∧ (run world command).stdout = ""

/-- **The commands and the service give the same answers.** -/
theorem agreement (world : World) (path : String) : Agreement world path where
  query := by
    intro config d hconfig hd text
    refine ⟨_, run_query hconfig hd text, fun server now r hr => ?_⟩
    rw [Dataset.empty_load_of_load hd]
    obtain ⟨hstatus, hbody⟩ := Http.respond_loaded server hr.posts
      (rfl : (Slot.loaded (d.builtAt now)).dataset = some _)
    refine ⟨hstatus, ?_⟩
    rw [hbody, document, Json.withoutBlanks_pretty, Dataset.execute_builtAt]
  info := by
    intro config d hconfig hd
    refine ⟨_, d.summary Http.infoSamples, run_info hconfig hd, ?_, fun server now r hr => ?_⟩
    · rw [document, Json.withoutBlanks_pretty, ← Dataset.summary_builtAt,
        Dataset.builtAt_of_load hd]
    · rw [Http.respond_status, Http.respond_body,
        Http.plainReply_of_calls hr (by decide) (by decide), Dataset.empty_load_of_load hd]
      exact ⟨rfl, rfl⟩
  sends _ := Http.exists_sends
  unresolved := by
    intro e he command hcommand
    have hrun := run_of_resolve_error he hcommand
    exact ⟨hrun, by rw [hrun]; rfl⟩
  unloaded := by
    intro config e hconfig he command hcommand
    have hrun := run_of_load_error hconfig he hcommand
    exact ⟨hrun, by rw [hrun]; rfl⟩

/-- Empty settings, and a collection without features in the file that they name. -/
example :
    (run ⟨fun path => .ok (.file (Symbol.ofString (if path = "settings.json" then "\x7b\x7d"
      else "\x7b\"type\":\"FeatureCollection\"\x7d"))), fun _ => .ok (), ""⟩
      (.query "settings.json" "500kV")).stdout =
    "\x7b\n  \"text_response\": \"Found **0** 500kV lines. Lines displayed on map.\",\n" ++
      "  \"geojson_data\": \x7b\n    \"type\": \"FeatureCollection\",\n" ++
      "    \"features\": []\n  \x7d\n\x7d\n" := by
  decide +kernel

end Command

end Gridlines
