import TypedRpc.Proofs.Command.Settings
import TypedRpc.Proofs.Directory
import TypedRpc.Proofs.Outcome
import TypedRpc.Proofs.Service.Mounting

/-!
# What commands write

A command writes a whole client or nothing: all that can fail, but for the write itself and for what comes after it, is
done before (`Command.run_of_prepares`, `Command.run_of_not_prepares`). The text that it writes is the same at all mounts
if the setup of the program registers the same handlers there (`Program.SameHandlers`). Main statement:
`Command.run_client`.
-/

namespace TypedRpc

namespace Program

variable {program : Program} {mount mount' : Mount} {text text' : String}

/-- All handlers of a program are registered at a mount, and the text is that of their client. -/
def Generates (program : Program) (mount : Mount) (text : String) : Prop :=
  ∃ service client, program.build mount = .ok service ∧ Client.ofRegistry service.registry = .ok client ∧
    client.print = text

/-- Wherever the setup of a program succeeds, it registers the same handlers in the same order. A setup may look at the
mount, and then it may do something else at each. -/
def SameHandlers (program : Program) : Prop :=
  ∀ mount mount' service service', program.build mount = .ok service → program.build mount' = .ok service' →
    service.registry.atRoot = service'.registry.atRoot

/-- The text of the client at a mount, if there is one. -/
def client? (program : Program) (mount : Mount) : Option String :=
  ((program.build mount).toOption.bind fun service => (Client.ofRegistry service.registry).toOption).map Client.print

theorem generates_iff : program.Generates mount text ↔ program.client? mount = some text := by
  rw [client?]
  constructor
  · rintro ⟨service, client, hbuild, hclient, rfl⟩
    rw [hbuild, Except.toOption, Option.bind_some, hclient]
    rfl
  · intro h
    obtain ⟨client, hfound, rfl⟩ := Option.map_eq_some_iff.mp h
    obtain ⟨service, hbuild, hclient⟩ := Option.bind_eq_some_iff.mp hfound
    exact ⟨service, client, Except.toOption_eq_some_iff.mp hbuild, Except.toOption_eq_some_iff.mp hclient, rfl⟩

theorem Generates.unique (h : program.Generates mount text) (h' : program.Generates mount text') : text = text' :=
  Option.some.inj ((generates_iff.mp h).symm.trans (generates_iff.mp h'))

/-- A client of the same handlers is the same wherever there is one. -/
theorem SameHandlers.generates (hsame : program.SameHandlers) (h : program.Generates mount text)
    (hok : (program.build mount').isOk = true) : program.Generates mount' text := by
  obtain ⟨service, client, hbuild, hclient, htext⟩ := h
  cases hbuild' : program.build mount' with
  | error e => simp [hbuild', Except.isOk, Except.toBool] at hok
  | ok service' =>
    have hatRoot := hsame mount mount' service service' hbuild hbuild'
    refine ⟨service', client, hbuild', ?_, htext⟩
    rw [← Client.ofRegistry_atRoot, ← hatRoot, Client.ofRegistry_atRoot, hclient]

theorem Generates.isOk (h : program.Generates mount text) : (program.build mount).isOk = true := by
  obtain ⟨service, client, hbuild, -⟩ := h
  rw [hbuild]
  rfl

/-- A setup that ignores the mount registers the same handlers at each. -/
theorem sameHandlers_of_ignoresMount (h : program.setup.IgnoresMount) : program.SameHandlers := by
  intro mount mount' service service' hbuild hbuild'
  obtain ⟨-, hregistry⟩ := h (.empty mount program.slots) (.empty mount' program.slots) rfl
  rw [build, Service.setUp] at hbuild hbuild'
  generalize program.setup.run.run (.empty mount program.slots) = outcome at hbuild hregistry
  generalize program.setup.run.run (.empty mount' program.slots) = outcome' at hbuild' hregistry
  obtain ⟨_ | _, later⟩ := outcome
  · cases hbuild
  obtain ⟨_ | _, later'⟩ := outcome'
  · cases hbuild'
  cases hbuild
  cases hbuild'
  exact hregistry

end Program

namespace Command

variable {program : Program} {surroundings : Surroundings} {command : Command} {path path' text text' : String}

/-- A command has a client to write, with this text and at this path: its settings are read, all handlers are registered
and the client is generated. A command that inspects has none. -/
inductive Prepares (program : Program) (surroundings : Surroundings) : Command → String → String → Prop where
  | generate {out : String} {mountPath : Option String} {text : String}
      (hgenerates : program.Generates ((mountPath.map Mount.below).getD .root) text) :
      Prepares program surroundings (.generate out mountPath) out text
  | serve {options : ServeOptions} {settings : Server.Settings} {path text : String}
      (hsettings : resolveSettings surroundings options = .ok settings) (hpath : settings.clientOut = some path)
      (hgenerates : program.Generates settings.mount text) : Prepares program surroundings (.serve options) path text

/-! ## One run -/

/-- A client that a command has to write is written whatever else fails, and if it cannot be written nothing is. -/
theorem run_of_prepares (h : command.Prepares program surroundings path text) :
    (command.run program surroundings).directory =
      (surroundings.directory.write path text).toOption.getD surroundings.directory := by
  cases h with
  | generate hgenerates =>
    obtain ⟨service, client, hbuild, hclient, rfl⟩ := hgenerates
    simp only [run, runGenerate, hbuild, writeClient, hclient, bind, Except.bind]
    cases surroundings.directory.write path client.print <;> rfl
  | @serve options settings _ _ hsettings hpath hgenerates =>
    obtain ⟨service, client, hbuild, hclient, rfl⟩ := hgenerates
    simp only [run, runServe, hsettings, Except.mapError_ok, hbuild, hpath, writeClient, hclient, bind, Except.bind]
    cases surroundings.directory.write path client.print with
    | error e => rfl
    | ok written =>
      dsimp only [pure, Except.pure]
      cases surroundings.network.listen settings.addr <;> rfl

theorem run_of_not_prepares (h : ∀ path text, ¬ command.Prepares program surroundings path text) :
    (command.run program surroundings).directory = surroundings.directory := by
  cases command with
  | generate out mountPath =>
    simp only [run, runGenerate, bind, Except.bind]
    cases hbuild : program.build ((mountPath.map Mount.below).getD .root) with
    | error e => rfl
    | ok service =>
      cases hclient : Client.ofRegistry service.registry with
      | error e => simp only [writeClient, hclient]; rfl
      | ok client => exact absurd (.generate ⟨service, client, hbuild, hclient, rfl⟩) (h out client.print)
  | serve options =>
    simp only [run, runServe, bind, Except.bind]
    cases hsettings : resolveSettings surroundings options with
    | error e => rfl
    | ok settings =>
      simp only [Except.mapError_ok]
      cases hbuild : program.build settings.mount with
      | error e => rfl
      | ok service =>
        cases hpath : settings.clientOut with
        | none =>
          dsimp only [pure, Except.pure]
          cases surroundings.network.listen settings.addr <;> rfl
        | some path =>
          cases hclient : Client.ofRegistry service.registry with
          | error e => simp only [writeClient, hclient]; rfl
          | ok client => exact absurd (.serve hsettings hpath ⟨service, client, hbuild, hclient, rfl⟩) (h path client.print)
  | inspect handler define =>
    simp only [run, runInspect]
    split <;> rfl

/-- A run leaves the directory as it was or sets one file in it, to the text of a client. -/
theorem run_cases (program : Program) (surroundings : Surroundings) (command : Command) :
    (command.run program surroundings).directory = surroundings.directory ∨
      ∃ path text names, command.Prepares program surroundings path text ∧ surroundings.directory.Leads path names ∧
        (command.run program surroundings).directory = surroundings.directory.put names text := by
  by_cases h : ∃ path text, command.Prepares program surroundings path text
  · obtain ⟨path, text, h⟩ := h
    rw [run_of_prepares h]
    cases hwrite : surroundings.directory.write path text with
    | error e => exact .inl rfl
    | ok written =>
      obtain ⟨names, hleads, -, rfl⟩ := Directory.write_eq_ok_iff.mp hwrite
      exact .inr ⟨path, text, names, h, hleads, rfl⟩
  · exact .inl (run_of_not_prepares fun path text hprepares => h ⟨path, text, hprepares⟩)

/-- What a command writes does not depend on the network. -/
theorem Prepares.network (h : command.Prepares program surroundings path text) (network : Server.Network) :
    command.Prepares program { surroundings with network } path text := by
  cases h with
  | generate hgenerates => exact .generate hgenerates
  | serve hsettings hpath hgenerates => exact .serve hsettings hpath hgenerates

theorem run_network (program : Program) (surroundings : Surroundings) (command : Command) (network : Server.Network) :
    (command.run program { surroundings with network }).directory = (command.run program surroundings).directory := by
  by_cases h : ∃ path text, command.Prepares program surroundings path text
  · obtain ⟨path, text, h⟩ := h
    rw [run_of_prepares h, run_of_prepares (h.network network)]
  · have hnot : ∀ path text, ¬ command.Prepares program surroundings path text := fun path text hprepares =>
      h ⟨path, text, hprepares⟩
    have hnot' : ∀ path text, ¬ command.Prepares program { surroundings with network } path text :=
      fun path text hprepares => hnot path text (hprepares.network surroundings.network)
    rw [run_of_not_prepares hnot, run_of_not_prepares hnot']

/-! ## Two runs -/

theorem Prepares.generates (h : command.Prepares program surroundings path text) :
    ∃ mount, program.Generates mount text := by
  cases h with
  | generate hgenerates => exact ⟨_, hgenerates⟩
  | serve _ _ hgenerates => exact ⟨_, hgenerates⟩

/-- Commands over the same handlers prepare one text. -/
theorem Prepares.text_eq (hsame : program.SameHandlers) {surroundings' : Surroundings} {command' : Command}
    (h : command.Prepares program surroundings path text) (h' : command'.Prepares program surroundings' path' text') :
    text = text' := by
  obtain ⟨mount, hgenerates⟩ := h.generates
  obtain ⟨mount', hgenerates'⟩ := h'.generates
  exact (hsame.generates hgenerates hgenerates'.isOk).unique hgenerates'

theorem prepares_generate_iff {out : String} {mountPath : Option String} :
    Prepares program surroundings (.generate out mountPath) path text ↔
      path = out ∧ program.Generates ((mountPath.map Mount.below).getD .root) text := by
  constructor
  · rintro ⟨hgenerates⟩
    exact ⟨rfl, hgenerates⟩
  · rintro ⟨rfl, hgenerates⟩
    exact .generate hgenerates

theorem prepares_serve_iff {options : ServeOptions} {settings : Server.Settings}
    (hsettings : resolveSettings surroundings options = .ok settings) :
    Prepares program surroundings (.serve options) path text ↔
      settings.clientOut = some path ∧ program.Generates settings.mount text := by
  constructor
  · rintro (_ | ⟨hsettings', hpath, hgenerates⟩)
    obtain rfl : settings = _ := Except.ok.inj (hsettings.symm.trans hsettings')
    exact ⟨hpath, hgenerates⟩
  · rintro ⟨hpath, hgenerates⟩
    exact .serve hsettings hpath hgenerates

/-- The path of a client on the command line is the one that counts. -/
theorem clientOut_of_options {options : ServeOptions} {settings : Server.Settings}
    (hsettings : resolveSettings surroundings options = .ok settings) (hpath : options.clientOut = some path) :
    settings.clientOut = some path := by
  rw [resolveSettings_eq] at hsettings
  cases hfile : surroundings.fileLayer options.config with
  | error e => simp [hfile, Except.map] at hsettings
  | ok file =>
    rw [hfile] at hsettings
    obtain rfl := Except.ok.inj hsettings
    simp [Server.Settings.apply, ServeOptions.layer, hpath]

/-! ## Files of commands -/

/-- **A client is written completely or not at all.** If a command has a client to write and the write succeeds, the file at
its path is that client when the command ends, even where it may not listen: the network has no say in it. Otherwise the
directory stays as it was, so it does when the command inspects, and no file but the one at the path is ever changed. If
the setup of a program registers the same handlers at all mounts where it succeeds, all commands write one text; where
it succeeds at the mounts of both or at neither, `generate` writes one exactly if `serve` writes it at the path that it
is given. -/
theorem run_client (program : Program) (surroundings : Surroundings) (command : Command) :
    let before := surroundings.directory
    let after := (command.run program surroundings).directory
    (∀ path text written, command.Prepares program surroundings path text → before.write path text = .ok written →
      after = written ∧ after.read path = .ok text) ∧
    ((∀ path text written, command.Prepares program surroundings path text → before.write path text ≠ .ok written) →
      after = before) ∧
    (∀ names, after.content? names = before.content? names ∨
      ∃ path text, command.Prepares program surroundings path text ∧ before.Leads path names ∧
        after.content? names = some text) ∧
    after.folders = before.folders ∧
    (∀ network, (command.run program { surroundings with network }).directory = after) ∧
    (∀ handler define, command = .inspect handler define → after = before) ∧
    (program.SameHandlers →
      (∀ surroundings' command' path path' text text', command.Prepares program surroundings path text →
        Prepares program surroundings' command' path' text' → text = text') ∧
      ∀ surroundings' out mountPath options settings path text, command = .generate out mountPath →
        resolveSettings surroundings' options = .ok settings → options.clientOut = some path →
        (program.build ((mountPath.map Mount.below).getD .root)).isOk = (program.build settings.mount).isOk →
          (command.Prepares program surroundings out text ↔
            Prepares program surroundings' (.serve options) path text)) := by
  intro before after
  have hcases := run_cases program surroundings command
  refine ⟨?_, ?_, ?_, ?_, run_network program surroundings command, ?_, ?_⟩
  · intro path text written hprepares hwrite
    have hafter : after = written := by
      rw [show after = _ from run_of_prepares hprepares, hwrite]
      rfl
    exact ⟨hafter, by rw [hafter, Directory.read_write hwrite]⟩
  · intro hnever
    obtain hsame | ⟨path, text, names, hprepares, hleads, hafter⟩ := hcases
    · exact hsame
    · cases hwrite : before.write path text with
      | error e => rw [show after = _ from run_of_prepares hprepares, hwrite]; rfl
      | ok written => exact absurd hwrite (hnever path text written hprepares)
  · intro names
    obtain hsame | ⟨path, text, target, hprepares, hleads, hafter⟩ := hcases
    · exact .inl (congrArg (·.content? names) hsame)
    · rw [show after = _ from hafter, Directory.content?_put]
      by_cases h : names = target
      · subst h
        exact .inr ⟨path, text, hprepares, hleads, if_pos rfl⟩
      · exact .inl (if_neg h)
  · obtain hsame | ⟨path, text, target, -, -, hafter⟩ := hcases
    · exact congrArg Directory.folders hsame
    · exact (congrArg Directory.folders hafter :)
  · rintro handler define rfl
    exact run_of_not_prepares fun _ _ hprepares => nomatch hprepares
  · intro hsame
    refine ⟨fun _ _ _ _ _ _ => Prepares.text_eq hsame, ?_⟩
    rintro surroundings' out mountPath options settings path text rfl hsettings hpath hok
    rw [prepares_generate_iff, prepares_serve_iff hsettings]
    exact ⟨fun h => ⟨clientOut_of_options hsettings hpath, hsame.generates h.2 (hok ▸ h.2.isOk)⟩,
      fun h => ⟨rfl, hsame.generates h.2 (hok ▸ h.2.isOk)⟩⟩

/-- Two handlers that are served where nobody may listen, mounted as the environment says, and generated at the root. -/
theorem run_client_refused :
    let answering : Handler Unit String := ⟨fun _ => .ok (), fun _ _ => .value "", fun text => .ok (.string text)⟩
    let setup : Setup Unit := do
      Setup.handler "app" "users::list" ⟨.unknown, .sequence .string⟩ answering
      Setup.handler "app" "users::show" ⟨.string, .string⟩ answering
    let program : Program := ⟨[], setup⟩
    let surroundings : Surroundings :=
      ⟨.working [("notes", "kept"), ("api.ts", "old")], [("TSBRIDGE_MOUNT_PATH", "/api")], .isolated⟩
    let options : ServeOptions := ⟨none, none, none, none, some "api.ts"⟩
    let outcome := (Command.serve options).run program surroundings
    program.SameHandlers ∧ (∃ addr cause, outcome.result = .error (.bind addr cause)) ∧
      ∃ text, Prepares program surroundings (.serve options) "api.ts" text ∧ outcome.directory.read "api.ts" = .ok text ∧
        outcome.directory.content? ["notes"] = some "kept" ∧
        Prepares program surroundings (.generate "client.ts" none) "client.ts" text := by
  intro answering setup program surroundings options outcome
  have hsame : program.SameHandlers :=
    Program.sameHandlers_of_ignoresMount
      (.bind (Setup.ignoresMount_handler _ _ _ _) fun _ => Setup.ignoresMount_handler _ _ _ _)
  have hshown : (program.client? (.below "/api")).isSome = true := by
    decide +kernel
  have hrefused : (match outcome.result with | .error (.bind _ _) => true | _ => false) = true := by
    decide +kernel
  obtain ⟨text, htext⟩ := Option.isSome_iff_exists.mp hshown
  have hsettings : resolveSettings surroundings options = .ok ⟨"0.0.0.0:8080", 4, 1048576, "/api", some "api.ts"⟩ := rfl
  have hprepares : Prepares program surroundings (.serve options) "api.ts" text :=
    .serve hsettings rfl (Program.generates_iff.mpr htext)
  obtain ⟨hwritten, -⟩ := run_client program surroundings (.serve options)
  obtain ⟨-, -, -, -, -, -, htwo⟩ := run_client program surroundings (.generate "client.ts" none)
  obtain ⟨hafter, hread⟩ := hwritten "api.ts" text (surroundings.directory.put ["api.ts"] text) hprepares rfl
  refine ⟨hsame, ?_, text, hprepares, hread, ?_, ?_⟩
  · split at hrefused
    next addr cause hresult => exact ⟨addr, cause, hresult⟩
    next => cases hrefused
  · rw [show outcome.directory = _ from hafter]
    rfl
  · have hok : (program.build Mount.root).isOk = (program.build (.below "/api")).isOk := by
      decide +kernel
    exact ((htwo hsame).2 surroundings "client.ts" none options _ "api.ts" text rfl hsettings rfl hok).mpr hprepares

/-- A setup that registers one handler at the root and another one everywhere else: what `generate` writes at the root is
not what `serve` writes below the mount path of the environment. -/
theorem run_client_of_mount :
    let answering : Handler Unit String := ⟨fun _ => .ok (), fun _ _ => .value "", fun text => .ok (.string text)⟩
    let setup : Setup Unit := do
      if (← get).registry.mount.path = "/" then
        Setup.handler "app" "jobs::list" ⟨.unknown, .sequence .string⟩ answering
      else
        Setup.handler "app" "jobs::show" ⟨.string, .string⟩ answering
    let program : Program := ⟨[], setup⟩
    let surroundings : Surroundings := ⟨.working [], [("TSBRIDGE_MOUNT_PATH", "/api")], .isolated⟩
    let options : ServeOptions := ⟨none, none, none, none, some "api.ts"⟩
    ∃ text text', Prepares program surroundings (.generate "api.ts" none) "api.ts" text ∧
      Prepares program surroundings (.serve options) "api.ts" text' ∧
      ((Command.generate "api.ts" none).run program surroundings).directory.read "api.ts" = .ok text ∧
      ((Command.serve options).run program surroundings).directory.read "api.ts" = .ok text' ∧ text ≠ text' := by
  intro answering setup program surroundings options
  have hshown : (program.client? .root).isSome = true ∧ (program.client? (.below "/api")).isSome = true ∧
      program.client? .root ≠ program.client? (.below "/api") := by
    decide +kernel
  obtain ⟨hroot, hbelow, hne⟩ := hshown
  obtain ⟨text, htext⟩ := Option.isSome_iff_exists.mp hroot
  obtain ⟨text', htext'⟩ := Option.isSome_iff_exists.mp hbelow
  have hsettings : resolveSettings surroundings options = .ok ⟨"0.0.0.0:8080", 4, 1048576, "/api", some "api.ts"⟩ := rfl
  have hgenerate : Prepares program surroundings (.generate "api.ts" none) "api.ts" text :=
    .generate (Program.generates_iff.mpr htext)
  have hserve : Prepares program surroundings (.serve options) "api.ts" text' :=
    .serve hsettings rfl (Program.generates_iff.mpr htext')
  have hread : ((Command.generate "api.ts" none).run program surroundings).directory.read "api.ts" = .ok text := by
    rw [run_of_prepares hgenerate]
    rfl
  have hread' : ((Command.serve options).run program surroundings).directory.read "api.ts" = .ok text' := by
    rw [run_of_prepares hserve]
    rfl
  refine ⟨text, text', hgenerate, hserve, hread, hread', ?_⟩
  rintro rfl
  exact hne (htext.trans htext'.symm)

end Command

end TypedRpc
