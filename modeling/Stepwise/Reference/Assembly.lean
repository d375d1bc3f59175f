import Stepwise.Capability.Toolbox
import Stepwise.Reference.Library

/-!
Putting an engine together. What is built in comes first; extensions and plugins follow in the order
in which they are listed. A reference that cannot be taken up is reported and changes nothing else.
-/

namespace Stepwise

/-- A reference that could not be taken up. -/
structure LoadFailure where
  plugin : Bool
  ref : String
  cause : Fault
  deriving DecidableEq, Repr

/-- The line that reports it. -/
def LoadFailure.line (f : LoadFailure) : String :=
  "Failed to load " ++ (if f.plugin then "plugin " else "extension ") ++ f.ref ++ ": " ++ f.cause.message

/-- What happens while an engine is put together. -/
inductive LoadEvent
  | deed (d : Deed)
  | failed (f : LoadFailure)
  deriving DecidableEq, Repr

namespace LoadEvent

/-- A note for the journal. -/
def note (source : Source) (text : String) : LoadEvent := deed (.diagnostic .debug source text)

/-- What an event does that can be seen from outside. -/
def deeds : LoadEvent → List Deed
  | deed d => [d]
  | failed f => [.show .error f.line]

/-- The failure that an event tells of. -/
def failure? : LoadEvent → Option LoadFailure
  | deed _ => none
  | failed f => some f

end LoadEvent

namespace Assembly

variable {σ : Type}

/-- The fault of a class of the wrong kind. -/
def wrongClass (ref base : String) : Fault :=
  .general .load (ref ++ " is not a " ++ base ++ " subclass")

/-- The fault of an object of the wrong kind. -/
def wrongObject (ref base : String) : Fault :=
  .general .load (ref ++ " is neither a " ++ base ++ " subclass nor an instance")

/-- The extension that an offer gives. -/
def extensionOf (ref : String) : Offer σ → Except Fault (Extension σ)
  | .extensionClass _ build => build
  | .extension _ e => .ok e
  | .pluginClass .. => .error (wrongClass ref "BaseExtension")
  | _ => .error (wrongObject ref "BaseExtension")

/-- The plugin that an offer gives. -/
def pluginOf (ref : String) : Offer σ → Except Fault (Settings → Plugin σ)
  | .pluginClass _ build => build
  | .plugin p => .ok fun _ => p
  | .extensionClass .. => .error (wrongClass ref "BasePlugin")
  | _ => .error (wrongObject ref "BasePlugin")

/-- The note that a reference was found. -/
def found (ref fallback : String) : LoadEvent :=
  let r := Reference.split ref fallback
  .note .loading ("Loaded " ++ r.name ++ " from " ++ r.target)

/-- The note that an extension was taken into a catalogue, which it turned into another one. -/
def registered (ext : Extension σ) (before after : Catalogue σ) : LoadEvent :=
  .note .registry ("Registered extension " ++ ext.title ++ " at index " ++
    toString before.extensions.length ++ " (" ++
    toString (after.entries.length - before.entries.length) ++ " capabilities)")

/-- The note that a plugin was put at a position. -/
def installed (name : String) (position : Nat) : LoadEvent :=
  .note .plugins ("Installed plugin " ++ name ++ " at position " ++ toString position)

/-- The name that is looked for in an extension reference that gives none. -/
def extensionName : String := "Extension"

/-- The name that is looked for in a plugin reference that gives none. -/
def pluginName : String := "Plugin"

/-- Takes up one extension; what happened is told also when that fails. -/
def takeExtension (load : String → Except Fault (Offer σ)) (c : Catalogue σ) (ref : String) :
    Except Fault (Catalogue σ) × List LoadEvent :=
  match load ref with
  | .error f => (.error f, [])
  | .ok o =>
    match extensionOf ref o with
    | .error f => (.error f, [found ref extensionName])
    | .ok ext =>
      let events := found ref extensionName :: ext.declaring.map .deed
      match c.register ext with
      | .error f => (.error f, events)
      | .ok (c', _) => (.ok c', events ++ [registered ext c c'])

/-- Takes up extensions one after the other. -/
def takeExtensions (load : String → Except Fault (Offer σ)) :
    Catalogue σ → List String → Catalogue σ × List LoadEvent
  | c, [] => (c, [])
  | c, ref :: refs =>
    match takeExtension load c ref with
    | (.ok c', events) =>
      let r := takeExtensions load c' refs
      (r.1, events ++ r.2)
    | (.error f, events) =>
      let r := takeExtensions load c refs
      (r.1, events ++ .failed ⟨false, ref, f⟩ :: r.2)

/-- Takes up one plugin. -/
def takePlugin (load : String → Except Fault (Offer σ)) (ref : String) :
    Except Fault (Settings → Plugin σ) × List LoadEvent :=
  match load ref with
  | .error f => (.error f, [])
  | .ok o => (pluginOf ref o, [found ref pluginName])

/-- Takes up plugins one after the other, from a position on. -/
def takePlugins (load : String → Except Fault (Offer σ)) (settings : Settings) :
    Nat → List String → List (Settings → Plugin σ) × List LoadEvent
  | _, [] => ([], [])
  | n, ref :: refs =>
    match takePlugin load ref with
    | (.ok p, events) =>
      let r := takePlugins load settings (n + 1) refs
      (p :: r.1, events ++ installed (p settings).name n :: r.2)
    | (.error f, events) =>
      let r := takePlugins load settings n refs
      (r.1, events ++ .failed ⟨true, ref, f⟩ :: r.2)

/-- The extension that is built in, as it is told of. -/
def builtin : Extension σ := ⟨.text "DefaultExtension", [], .ok .null, []⟩

/-- The note that all is ready. -/
def ready (e : Engine σ) : LoadEvent :=
  .note .factory ("Engine context ready: " ++ toString e.catalogue.extensions.length ++
    " extensions, " ++ toString e.catalogue.entries.length ++ " capabilities, " ++
    toString e.participants.length ++ " plugins")

/-- The engine for settings, with what happened while it was put together. -/
def assemble (settings : Settings) (site : Site) (host : Host σ) (library : Library σ)
    (files : FileTree) : Engine σ × List LoadEvent :=
  let c := takeExtensions (fun ref => library.load site files ref extensionName) Toolbox.catalogue
    settings.extensions
  let first := host.preceding.length
  let p := takePlugins (fun ref => library.load site files ref pluginName) settings (first + 1)
    settings.plugins
  let e : Engine σ := ⟨settings, site, c.1, p.1, host⟩
  let start := [registered builtin (Catalogue.empty defaultSpace : Catalogue σ) Toolbox.catalogue]
  (e, start ++ c.2 ++ installed Plugin.planEchoName first :: p.2 ++ [ready e])

/-- The references that could not be taken up. -/
def failures (events : List LoadEvent) : List LoadFailure := events.filterMap LoadEvent.failure?

end Assembly

end Stepwise
