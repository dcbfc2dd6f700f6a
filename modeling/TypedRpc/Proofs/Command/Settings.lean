import TypedRpc.Command.Run
import TypedRpc.Proofs.Number.Unsigned
import TypedRpc.Proofs.Outcome

/-!
# Settings in layers

A setting is settled by the highest layer that says something of it, and no other setting matters. Main statement:
`resolveSettings_layered`.
-/

namespace TypedRpc

open TypedRpc.Text

namespace Server

/-! ## Single settings -/

/-- What the first of some layers that says something says of a setting, or else a default. -/
def highest {α : Type} (said : List (Option α)) (default : α) : α :=
  (said.findSome? id).getD default

/-- A setting: what layers say of it and what it is. A further layer settles it if it says something of it, and leaves
it as it was otherwise. -/
structure Setting (α : Type) where
  said : Layer → Option α
  value : Settings → α
  value_apply : ∀ settings layer, value (settings.apply layer) = (said layer).getD (value settings)

namespace Setting

def addr : Setting String := ⟨Layer.addr, Settings.addr, fun _ _ => rfl⟩

def workers : Setting Nat := ⟨Layer.workers, Settings.workers, fun _ _ => rfl⟩

def maxBodyBytes : Setting Nat := ⟨Layer.maxBodyBytes, Settings.maxBodyBytes, fun _ _ => rfl⟩

def mountPath : Setting String := ⟨Layer.mountPath, Settings.mountPath, fun _ _ => rfl⟩

def clientOut : Setting (Option String) := ⟨Layer.clientOut, Settings.clientOut, fun _ _ => rfl⟩

variable {α : Type} (setting : Setting α)

/-- Of layers that are applied one after the other the last one is the highest. -/
theorem value_foldl_apply (layers : List Layer) (settings : Settings) :
    setting.value (layers.foldl Settings.apply settings) =
      highest (layers.reverse.map setting.said) (setting.value settings) := by
  induction layers generalizing settings with
  | nil => rfl
  | cons layer rest ih =>
    rw [List.foldl_cons, ih, setting.value_apply]
    simp only [highest, List.reverse_cons, List.map_append, List.findSome?_append, List.map_cons, List.map_nil]
    cases (rest.reverse.map setting.said).findSome? id <;> simp

/-- What a layer says twice it says once. -/
theorem value_apply_apply (settings : Settings) (layer : Layer) :
    setting.value ((settings.apply layer).apply layer) = setting.value (settings.apply layer) := by
  simp only [setting.value_apply]
  cases setting.said layer <;> rfl

end Setting

theorem Settings.eq_iff {settings settings' : Settings} :
    settings = settings' ↔ settings.addr = settings'.addr ∧ settings.workers = settings'.workers ∧
      settings.maxBodyBytes = settings'.maxBodyBytes ∧ settings.mountPath = settings'.mountPath ∧
      settings.clientOut = settings'.clientOut := by
  cases settings
  cases settings'
  simp

/-- Applying a layer again changes nothing. -/
theorem Settings.apply_apply (settings : Settings) (layer : Layer) :
    (settings.apply layer).apply layer = settings.apply layer :=
  Settings.eq_iff.mpr ⟨Setting.addr.value_apply_apply settings layer, Setting.workers.value_apply_apply settings layer,
    Setting.maxBodyBytes.value_apply_apply settings layer, Setting.mountPath.value_apply_apply settings layer,
    Setting.clientOut.value_apply_apply settings layer⟩

/-! ## Numbers in the environment -/

theorem Layer.numberIn_eq_some_iff {environment : Environment} {name : String} {number : Nat} :
    numberIn environment name = some number ↔
      ∃ text before numeral after, environment.lookup name = some text ∧ text.toList = before ++ numeral ++ after ∧
        (∀ c ∈ before, isBlank c = true) ∧ (∀ c ∈ after, isBlank c = true) ∧ Unsigned.Writes number numeral := by
  simp only [numberIn, Option.bind_eq_some_iff, Unsigned.parse?_eq_some_iff, trim, String.toList_ofList]
  constructor
  · rintro ⟨text, htext, hwrites⟩
    obtain ⟨before, after, hparts, hbefore, hafter⟩ := (trimBlanks_eq_iff hwrites.ne_nil hwrites.not_blank).mp rfl
    exact ⟨text, before, _, after, htext, hparts, hbefore, hafter, hwrites⟩
  · rintro ⟨text, before, numeral, after, htext, hparts, hbefore, hafter, hwrites⟩
    have htrim := (trimBlanks_eq_iff hwrites.ne_nil hwrites.not_blank).mpr ⟨before, after, hparts, hbefore, hafter⟩
    exact ⟨text, htext, by rwa [htrim]⟩

end Server

open Server

/-! ## The settings of a command -/

/-- What the file of settings says, if one is given. -/
def Surroundings.fileLayer (surroundings : Surroundings) : Option String → Except SettingsError Layer
  | none => .ok .empty
  | some path => Layer.load path ((surroundings.directory.read path).mapError FileError.message)

theorem resolveSettings_eq (surroundings : Surroundings) (options : ServeOptions) :
    resolveSettings surroundings options = (surroundings.fileLayer options.config).map fun file =>
      [file, .ofEnvironment surroundings.environment, options.layer].foldl Settings.apply .default := by
  rw [resolveSettings]
  cases options.config with
  | none => rfl
  | some path =>
    dsimp only [Surroundings.fileLayer]
    cases Layer.load path ((surroundings.directory.read path).mapError FileError.message) <;> rfl

/-- **The highest layer counts, for each setting on its own.** Flags are above the environment, the environment is above the
file, and below them are the defaults; the settings fail to be resolved only if the file does. A number counts in the
environment if it is written in digits between blanks. An empty path of the client in the environment hides that of the
file, and not that of a flag. To apply the environment again changes nothing. -/
theorem resolveSettings_layered (surroundings : Surroundings) (options : ServeOptions) :
    let environment := surroundings.environment
    (∀ settings, resolveSettings surroundings options = .ok settings ↔
      ∃ file, surroundings.fileLayer options.config = .ok file ∧
        settings.addr = highest [options.addr, environment.lookup "TSBRIDGE_ADDR", file.addr] "0.0.0.0:8080" ∧
        settings.workers = highest [options.workers, Layer.numberIn environment "TSBRIDGE_WORKERS", file.workers] 4 ∧
        settings.maxBodyBytes =
          highest [Layer.numberIn environment "TSBRIDGE_MAX_BODY_BYTES", file.maxBodyBytes] 1048576 ∧
        settings.mountPath = highest [options.mountPath, environment.lookup "TSBRIDGE_MOUNT_PATH", file.mountPath] "/" ∧
        settings.clientOut = highest [options.clientOut.map some,
          (environment.lookup "TSBRIDGE_CLIENT_OUT").map fun path => if path = "" then none else some path,
          file.clientOut] none) ∧
    (∀ error, resolveSettings surroundings options = .error error ↔
      surroundings.fileLayer options.config = .error error) ∧
    (∀ name number, Layer.numberIn environment name = some number ↔
      ∃ text before numeral after, environment.lookup name = some text ∧ text.toList = before ++ numeral ++ after ∧
        (∀ c ∈ before, isBlank c = true) ∧ (∀ c ∈ after, isBlank c = true) ∧ Unsigned.Writes number numeral) ∧
    ∀ settings : Settings, (settings.apply (.ofEnvironment environment)).apply (.ofEnvironment environment) =
      settings.apply (.ofEnvironment environment) := by
  intro environment
  have henvironment : (fun path : String => if path = "" then none else some path) =
      fun path => if path.isEmpty then none else some path := by
    funext path
    simp [String.isEmpty_iff]
  rw [resolveSettings_eq]
  refine ⟨?_, ?_, ?_, ?_⟩
  · intro settings
    cases surroundings.fileLayer options.config with
    | error e => simp [Except.map]
    | ok file =>
      simp only [Except.map, Except.ok.injEq, exists_eq_left']
      rw [eq_comm, Settings.eq_iff, henvironment]
      have haddr := Setting.addr.value_foldl_apply [file, .ofEnvironment environment, options.layer] .default
      have hworkers := Setting.workers.value_foldl_apply [file, .ofEnvironment environment, options.layer] .default
      have hsize := Setting.maxBodyBytes.value_foldl_apply [file, .ofEnvironment environment, options.layer] .default
      have hmount := Setting.mountPath.value_foldl_apply [file, .ofEnvironment environment, options.layer] .default
      have hclient := Setting.clientOut.value_foldl_apply [file, .ofEnvironment environment, options.layer] .default
      exact and_congr (Eq.congr_right haddr) <| and_congr (Eq.congr_right hworkers) <|
        and_congr (Eq.congr_right hsize) <| and_congr (Eq.congr_right hmount) (Eq.congr_right hclient)
  · intro error
    cases surroundings.fileLayer options.config <;> simp [Except.map]
  · intro name number
    exact Layer.numberIn_eq_some_iff
  · intro settings
    exact settings.apply_apply _

end TypedRpc
