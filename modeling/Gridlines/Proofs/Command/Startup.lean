import Gridlines.Proofs.Answer.RoundTrip
import Gridlines.Proofs.Command.Agreement
import Gridlines.Proofs.Command.Settings
import Gridlines.Proofs.Http.Origins

/-!
# Starting the service

Settings are checked when they are read, all but the origins that may use the service.  These are
looked at when the service is built: entries that cannot stand in a header are dropped, and the
entry `*`, which can, is refused.  So settings that pass every check still make no service if `*` is
one of their origins, and make one in all other cases.

* `Command.startup_of_load` : what serving with accepted settings comes to.
* `Command.load_without_server` : accepted settings that make no service.
-/

namespace Gridlines

/-- Settings that are read from a file are the ones that its path stands for. -/
theorem Config.resolve_of_load {files : Files} {path : String} {config : Config}
    (h : load files path = .ok config) : resolve files path = .ok config := by
  obtain ⟨s, hfile, -⟩ := load_eq_ok_iff.1 h
  rw [resolve_eq_load fun _ => ⟨_, hfile⟩, h]

namespace Command

/-- What serving with the settings of a file comes to. -/
structure Startup (world : World) (path : String) (config : Config) : Prop where
  builds : (∃ server, Http.Server.build config.http = .ok server) ↔ "*" ∉ config.http.corsOrigins
  /-- With `*` among the origins the command starts no service, -/
  refuses : "*" ∈ config.http.corsOrigins → run world (.serve path) = .refused .wildcardOrigin
  /-- otherwise the service listens with these settings, -/
  serves : "*" ∉ config.http.corsOrigins → world.listen config.http.address = .ok () →
    ∃ server, server.config = config.http ∧ Http.Server.build config.http = .ok server ∧
      run world (.serve path) = .serving server config.dataFile
  /-- unless it cannot listen at its address. -/
  fails : "*" ∉ config.http.corsOrigins → ∀ words,
    world.listen config.http.address = .error words →
      run world (.serve path) = .failed (.cannotListen words)

variable {world : World} {path : String} {config : Config}

theorem startup_of_load (h : Config.load world.files path = .ok config) :
    Startup world path config := by
  have hresolve := resolveConfig_of_resolve (Config.resolve_of_load h)
  constructor
  case builds => exact Http.Server.exists_build_iff
  case refuses =>
    intro hstar
    simp only [run, runServe, hresolve, Http.Server.build_of_mem hstar]
  case serves =>
    intro hstar hlisten
    refine ⟨_, rfl, Http.Server.build_of_not_mem hstar, ?_⟩
    simp only [run, runServe, hresolve, Http.Server.build_of_not_mem hstar, hlisten]
  case fails =>
    intro hstar words hlisten
    simp only [run, runServe, hresolve, Http.Server.build_of_not_mem hstar, hlisten]

/-- Settings with one origin, and no other setting, in every file. -/
def settingsWith (origin : String) : Files := fun _ =>
  .ok (.file
    (Symbol.ofString ("\x7b\"http\":\x7b\"cors_origins\":[\"" ++ origin ++ "\"]\x7d\x7d")))

/-- A page with an origin of its own may use the service, which listens. -/
theorem startup_of_load_origin :
    ∃ config, Config.load (settingsWith "http://a") "a.json" = .ok config ∧
      config.http.corsOrigins = ["http://a"] ∧
      Startup ⟨settingsWith "http://a", fun _ => .ok (), ""⟩ "a.json" config := by
  obtain ⟨config, hload, horigins⟩ :
      ∃ config, Config.load (settingsWith "http://a") "a.json" = .ok config ∧
        config.http.corsOrigins = ["http://a"] :=
    exists_eq_ok (by decide +kernel)
  exact ⟨config, hload, horigins, startup_of_load hload⟩

/-- Settings that pass every check and make no service. -/
theorem load_without_server :
    ∃ config, Config.load (settingsWith "*") "a.json" = .ok config ∧
      ∀ server, Http.Server.build config.http ≠ .ok server := by
  obtain ⟨config, hload, horigins⟩ :
      ∃ config, Config.load (settingsWith "*") "a.json" = .ok config ∧
        config.http.corsOrigins = ["*"] :=
    exists_eq_ok (by decide +kernel)
  refine ⟨config, hload, fun server hserver => ?_⟩
  exact Http.Server.exists_build_iff.1 ⟨server, hserver⟩ (by simp [horigins])

end Command

end Gridlines
