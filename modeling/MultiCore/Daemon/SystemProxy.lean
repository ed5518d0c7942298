import MultiCore.Library.Program

/-!
# The system proxy guard

While connected without TUN the user's proxy settings point at the mixed port.
The previous values are saved to a marker file before anything is changed, and
written back while the settings still name the applied server. The registry
holds four values that are written one after another; every call may fail.
-/

namespace MultiCore.Daemon

open Faulty

/-- Hosts that never go through the proxy. -/
def proxyOverrideHosts : String := "<local>;localhost;127.*;10.*;172.16.*;192.168.*"

/-- The proxy values; an absent value is `none`. -/
structure ProxySettings where
  proxyEnable : Option Nat
  proxyServer : Option String
  proxyOverride : Option String
  autoConfigUrl : Option String
  deriving DecidableEq, Repr

/-- The server that the settings name while the proxy is on. -/
def appliedServer (port : Nat) : String := "127.0.0.1:" ++ toString port

/-- The settings for a mixed port. -/
def ProxySettings.applied (port : Nat) : ProxySettings where
  proxyEnable := some 1
  proxyServer := some (appliedServer port)
  proxyOverride := some proxyOverrideHosts
  autoConfigUrl := none

/-- What is saved before the proxy is applied. -/
structure ProxyMarker where
  previous : ProxySettings
  appliedServer : String
  deriving DecidableEq, Repr

/-- The settings to write back, or none when the user has changed the proxy since. -/
def restorePlan (current : ProxySettings) (marker : ProxyMarker) : Option ProxySettings :=
  if current.proxyEnable = some 1 ∧ current.proxyServer = some marker.appliedServer then
    some marker.previous
  else none

/-- The marker file. -/
inductive MarkerFile where
  | absent
  | unreadable
  | saved (marker : ProxyMarker)
  deriving DecidableEq, Repr

/-- One of the four registry values. -/
inductive ProxyValue where
  | proxyEnable
  | proxyServer
  | proxyOverride
  | autoConfigUrl
  deriving DecidableEq, Repr

/-- The settings with one value taken from `target`. -/
def ProxySettings.put (target current : ProxySettings) : ProxyValue → ProxySettings
  | .proxyEnable => { current with proxyEnable := target.proxyEnable }
  | .proxyServer => { current with proxyServer := target.proxyServer }
  | .proxyOverride => { current with proxyOverride := target.proxyOverride }
  | .autoConfigUrl => { current with autoConfigUrl := target.autoConfigUrl }

/-- The guard's calls into its environment. -/
inductive ProxyAsk where
  | readMarker
  | writeMarker (marker : ProxyMarker)
  | removeMarker
  | readSettings
  | openKey
  | writeValue (target : ProxySettings) (value : ProxyValue)
  | notifyChanged
  | publish (port : Option Nat)

/-- What the system may answer to each question. -/
abbrev ProxyAnswer : ProxyAsk → Type
  | .readMarker => Option MarkerFile
  | .writeMarker _ => Bool
  | .removeMarker => Bool
  | .readSettings => Option ProxySettings
  | .openKey => Bool
  | .writeValue _ _ => Bool
  | .notifyChanged => Unit
  | .publish _ => Unit

/-- A part of the proxy's code, which asks the registry and the disk. -/
abbrev ProxyProgram (α : Type) : Type := Program ProxyAsk ProxyAnswer α

/-- One question to the system. -/
def askProxy (q : ProxyAsk) : ProxyProgram (ProxyAnswer q) := Program.question q

/-- Writes these values in order, up to the first that fails. -/
def putValues (target : ProxySettings) : List ProxyValue → ProxyProgram Bool
  | [] => pure true
  | value :: values => do
    if ← askProxy (.writeValue target value) then putValues target values else pure false

/-- The write of all settings to the registry. -/
def writeSettings (target : ProxySettings) : ProxyProgram Bool := do
  if ← askProxy .openKey then
    putValues target [.proxyEnable, .proxyServer, .proxyOverride, .autoConfigUrl]
  else pure false

/-- Restores what the marker says, as far as it can be read. -/
def restoreSaved : MarkerFile → ProxyProgram Bool
  | .absent => pure true
  | .unreadable => pure true
  | .saved marker => do
    match ← askProxy .readSettings with
    | none => pure false
    | some current =>
      match restorePlan current marker with
      | none => pure true
      | some previous => do
        if ← writeSettings previous then
          askProxy .notifyChanged
          pure true
        else pure false

/-- Restores the settings saved in the marker, if any, and removes the marker. -/
def recover : ProxyProgram Bool := do
  match ← askProxy .readMarker with
  | none => pure false
  | some .absent => pure true
  | some file => do
    if ← restoreSaved file then askProxy .removeMarker else pure false

/-- `SystemProxy`: the port that is applied. -/
structure SystemProxy where
  port : Nat
  /-- Subscription downloads are told about the proxy. -/
  publishing : Bool
  deriving DecidableEq, Repr

namespace SystemProxy

/-- Downloads are told whether there is a proxy. -/
def publish (proxy : SystemProxy) (applied : Bool) : ProxyProgram Unit :=
  if proxy.publishing then askProxy (.publish (if applied then some proxy.port else none))
  else pure ()

/-- `apply`: the marker is on the disk before the first value is written. -/
def apply (proxy : SystemProxy) : ProxyProgram Bool := do
  -- A marker left by a crash still holds the user's real settings.
  if ← recover then
    match ← askProxy .readSettings with
    | none => pure false
    | some previous => do
      if ← askProxy (.writeMarker ⟨previous, appliedServer proxy.port⟩) then
        if ← writeSettings (.applied proxy.port) then
          askProxy .notifyChanged
          proxy.publish true
          pure true
        else do
          -- Partially written values are put back by the marker.
          let _ ← recover
          pure false
      else pure false
  else pure false

/-- `restore`: what the marker says, once downloads no longer use the proxy. -/
def restore (proxy : SystemProxy) : ProxyProgram Bool := do
  proxy.publish false
  recover

end SystemProxy

end MultiCore.Daemon
