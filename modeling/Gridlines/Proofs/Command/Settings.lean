import Gridlines.Proofs.Command.DefaultPath
import Gridlines.Proofs.Json.Records
import Gridlines.Proofs.Text.Blank

/-!
# Settings of files

Settings come from a file, and only if nothing is found at the default path there are others.
Whatever is wrong with what is found is told.  But a path that cannot be followed to its end leads
to nothing that could be found, so there the defaults stand for the file, and what is wrong with it
stays untold.  All settings name a data file and have a port that one can listen at, and those that
do can be written to a file and are read back.

* `Config.Valid` : settings that pass every check.
* `Config.load_eq_ok_iff` : the settings of a file.
* `Config.resolved` : the settings at every path, whatever the files are.
* `Config.resolve_slash_portless` : a file that cannot be used and is passed over.
-/

namespace Gridlines

open Json (Decoder)

/-! ### Written settings are read back -/

theorem Http.Config.shape_reads (n : ℕ) (c : Http.Config) :
    Http.Config.shape.decoder.Reads (n + 2) c.toJson c := by
  refine Json.Shape.decoder_reads ⟨some c.host, some c.port, some c.corsOrigins⟩ ?_ rfl
  refine .note rfl rfl (Decoder.text_reads (n + 1) c.host) ?_
  refine .note rfl rfl (Decoder.port_reads (n + 1) c.port) ?_
  refine .note rfl rfl (Decoder.list_reads fun s _ => Decoder.text_reads n s) ?_
  exact .nil

namespace Config

theorem shape_reads (n : ℕ) (c : Config) : shape.decoder.Reads (n + 3) c.toJson c := by
  refine Json.Shape.decoder_reads ⟨some c.dataFile, some c.http⟩ ?_ rfl
  refine .note rfl rfl (Decoder.text_reads (n + 2) c.dataFile) ?_
  refine .note rfl rfl (c.http.shape_reads n) ?_
  exact .nil

/-! ### Checked settings -/

/-- The settings name a data file, and the port is one that the service can listen at. -/
structure Valid (c : Config) : Prop where
  dataFile : ∃ ch ∈ c.dataFile.toList, ¬isBlank ch
  port : 1 ≤ c.http.port.val ∧ c.http.port.val ≤ 65535

theorem isEmpty_trimBlank_iff {s : String} :
    (trimBlank s.toList).isEmpty ↔ ¬∃ ch ∈ s.toList, ¬isBlank ch := by
  rw [List.isEmpty_iff, trimBlank_eq_nil_iff]
  simp

theorem check_eq_ok_iff {c c' : Config} : c.check = .ok c' ↔ c' = c ∧ c.Valid := by
  unfold check
  split_ifs with hblank hport
  · refine iff_of_false not_false fun h => ?_
    exact isEmpty_trimBlank_iff.1 hblank h.2.dataFile
  · refine iff_of_false not_false fun h => ?_
    have hpos := h.2.port.1
    omega
  · have hdata : ∃ ch ∈ c.dataFile.toList, ¬isBlank ch :=
      not_not.1 fun h => hblank (isEmpty_trimBlank_iff.2 h)
    constructor
    · rintro ⟨⟩
      exact ⟨rfl, hdata, by omega, by omega⟩
    · rintro ⟨rfl, -⟩
      rfl

theorem read_eq_ok_iff {s : Content} {c : Config} :
    read s = .ok c ↔ shape.decoder.run s = .ok c ∧ c.Valid := by
  unfold read
  cases shape.decoder.run s with
  | error e => exact iff_of_false (by rintro ⟨⟩) (by rintro ⟨⟨⟩, -⟩)
  | ok c' =>
    rw [check_eq_ok_iff, Except.ok.injEq, eq_comm]
    exact and_congr_right fun h => h ▸ Iff.rfl

variable {files : Files} {path : String} {c : Config}

/-- Settings are loaded from a file that holds well-formed text with valid settings, and from no
other file. -/
theorem load_eq_ok_iff : load files path = .ok c ↔
    ∃ s, files path = .ok (.file s) ∧ (Symbol.text? s).isSome ∧ shape.decoder.run s = .ok c ∧
      c.Valid := by
  have hread : load files path = .ok c ↔ ∃ s, files.readText path = .ok s ∧ read s = .ok c := by
    unfold load
    cases files.readText path <;> simp
  rw [hread]
  simp only [Files.readText_eq_ok_iff, read_eq_ok_iff, and_assoc]

theorem load_of_error {e : PathError} (h : files path = .error e) :
    load files path = .error (.file path (.file (.path e))) := by
  rw [load, Files.readText_of_error h]

/-- **Valid settings are loaded from a file that they have been written to.** -/
theorem load_of_written (h : c.Valid)
    (hfile : files path = .ok (.file (Symbol.ofString c.toJson.compact))) :
    load files path = .ok c := by
  refine load_eq_ok_iff.2 ⟨_, hfile, ?_, Decoder.run_reads (shape_reads 124 c), h⟩
  rw [Symbol.text?_ofString]
  rfl

theorem valid_default : Valid {} where
  dataFile := ⟨'E', by decide, by decide⟩
  port := by decide

/-! ### The settings at a path -/

/-- What the settings at a path are. -/
structure Resolved (files : Files) (path : String) : Prop where
  /-- They are the defaults if nothing is there at the path of the default file. -/
  defaults : NamesDefault path → files path = .error .notFound → resolve files path = .ok {}
  /-- At other paths, and wherever something is found, they are those of the file. -/
  loads : (NamesDefault path → ∃ entry, files path = .ok entry) →
    resolve files path = load files path
  /-- If something is found, whatever is wrong with it is told. -/
  told : ∀ entry, files path = .ok entry → ∀ e, load files path = .error e →
    resolve files path = .error e
  /-- But at the path of the default file the defaults also stand for what cannot be found for
  another reason, which is told elsewhere. -/
  masked : NamesDefault path → ∀ e, e ≠ .notFound → files path = .error e →
    resolve files path = .ok {} ∧ load files path = .error (.file path (.file (.path e)))
  /-- The settings of a file are written in it. -/
  loaded : ∀ c, load files path = .ok c ↔ ∃ s, files path = .ok (.file s) ∧
    (Symbol.text? s).isSome ∧ shape.decoder.run s = .ok c ∧ c.Valid
  valid : ∀ c, resolve files path = .ok c ∨ load files path = .ok c → c.Valid
  /-- Valid settings that have been written are loaded again. -/
  written : ∀ c : Config, c.Valid →
    files path = .ok (.file (Symbol.ofString c.toJson.compact)) → load files path = .ok c

theorem resolve_of_error {e : PathError} (hpath : NamesDefault path) (h : files path = .error e) :
    resolve files path = .ok {} := by
  have hthere : files.isThere path = false := Files.isThere_eq_false_iff.2 ⟨e, h⟩
  rw [resolve, if_pos ⟨isDefaultPath_iff.2 hpath, by simp [hthere]⟩]

theorem resolve_eq_load (h : NamesDefault path → ∃ entry, files path = .ok entry) :
    resolve files path = load files path := by
  rw [resolve, if_neg]
  rintro ⟨hpath, hthere⟩
  obtain ⟨entry, hentry⟩ := h (isDefaultPath_iff.1 hpath)
  obtain ⟨e, he⟩ := Files.isThere_eq_false_iff.1 (by simpa using hthere)
  cases hentry.symm.trans he

theorem valid_of_load (h : load files path = .ok c) : c.Valid := by
  obtain ⟨-, -, -, -, hvalid⟩ := load_eq_ok_iff.1 h
  exact hvalid

theorem valid_of_resolve (h : resolve files path = .ok c) : c.Valid := by
  by_cases hfound : NamesDefault path → ∃ entry, files path = .ok entry
  · rw [resolve_eq_load hfound] at h
    exact valid_of_load h
  · obtain ⟨hpath, hnone⟩ := Classical.not_imp.1 hfound
    cases hentry : files path with
    | ok entry => exact absurd ⟨entry, hentry⟩ hnone
    | error e =>
      rw [resolve_of_error hpath hentry] at h
      cases h
      exact valid_default

/-- **Settings are the defaults or those of a valid file**, at every path.  What is found there is
never passed over; but at the path of the default file anything that keeps it from being found is
taken for its absence. -/
theorem resolved (files : Files) (path : String) : Resolved files path where
  defaults hpath := resolve_of_error hpath
  loads := resolve_eq_load
  told entry hentry _ he := (resolve_eq_load fun _ => ⟨entry, hentry⟩).trans he
  masked hpath _ _ he := ⟨resolve_of_error hpath he, load_of_error he⟩
  loaded _ := load_eq_ok_iff
  valid _ h := h.elim valid_of_resolve valid_of_load
  written _ := load_of_written

/-- A default file that cannot be used: its settings have no port to listen at. -/
def portless : FileTree :=
  .ofList [("gridquery.json", Symbol.ofString "\x7b\"http\":\x7b\"port\":0\x7d\x7d")]

/-- With a slash after its name the default file is not found, so the defaults stand for settings
that cannot be used. -/
theorem resolve_slash_portless :
    NamesDefault "./gridquery.json/" ∧
      load portless.read "./gridquery.json" = .error .zeroPort ∧
      load portless.read "./gridquery.json/" =
        .error (.file "./gridquery.json/" (.file (.path .notDirectory))) ∧
      resolve portless.read "./gridquery.json" = .error .zeroPort ∧
      resolve portless.read "./gridquery.json/" = .ok {} := by
  have hpath : NamesDefault "./gridquery.json/" := isDefaultPath_iff.1 (by decide)
  have hfound : ∃ entry, portless.read "./gridquery.json" = .ok entry := ⟨_, rfl⟩
  have hload : load portless.read "./gridquery.json" = .error .zeroPort := by rfl
  have hslash : portless.read "./gridquery.json/" = .error .notDirectory := by rfl
  refine ⟨hpath, hload, load_of_error hslash, ?_, resolve_of_error hpath hslash⟩
  rw [resolve_eq_load fun _ => hfound, hload]

end Config

end Gridlines
