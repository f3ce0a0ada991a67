import DatasetService.Store.Basic

set_option autoImplicit false

/- The configuration of a server, and the settings that its router works with. -/
namespace DatasetService

/-- The greatest number of a port. -/
def maxPort : Nat := 65535

structure ServerConfig where
  host : String := "127.0.0.1"
  port : Nat := 3001
  readOnly : Bool := false
  /-- Told to clients in a header of every response. -/
  apiVersion : String := "0.1.0"
  maxUploadBytes : Nat := 8 * 1024 * 1024
  /-- Zero stands for no deadline. -/
  requestTimeoutSecs : Nat := 30
deriving DecidableEq, Repr

structure RemoteConfig where
  /-- The remote that is asked where local history is missing. -/
  defaultRemote : String := registryName
  fetchTimeoutSecs : Nat := 15
deriving DecidableEq, Repr

structure StoreConfig where
  loadSeedData : Bool := false
deriving DecidableEq, Repr

structure AppConfig where
  server : ServerConfig := {}
  remote : RemoteConfig := {}
  store : StoreConfig := {}
deriving DecidableEq, Repr

/-- The address on which the server listens. -/
def AppConfig.address (config : AppConfig) : String :=
  config.server.host ++ ":" ++ toString config.server.port

/-- What a router is given when it starts. Times are in milliseconds. -/
structure Settings where
  readOnly : Bool := false
  apiVersion : String := "0.1.0"
  defaultRemote : String := registryName
  requestTimeout : Option Nat := some 30000
  fetchTimeout : Nat := 15000
  maxUploadBytes : Nat := 8 * 1024 * 1024
deriving DecidableEq, Repr

def millisOfSeconds (seconds : Nat) : Nat := 1000 * seconds

def Settings.ofConfig (config : AppConfig) : Settings where
  readOnly := config.server.readOnly
  apiVersion := config.server.apiVersion
  defaultRemote := config.remote.defaultRemote
  requestTimeout :=
    if config.server.requestTimeoutSecs = 0 then none
    else some (millisOfSeconds config.server.requestTimeoutSecs)
  fetchTimeout := millisOfSeconds config.remote.fetchTimeoutSecs
  maxUploadBytes := config.server.maxUploadBytes

end DatasetService
