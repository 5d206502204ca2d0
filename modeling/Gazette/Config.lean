import Gazette.Text.Digits
import Gazette.Text.Utf8
import Gazette.Time.Duration

/-!
# Configuration

`Config.ofVariables` makes a configuration from variables. For one that is missing or makes no sense there is a default.
-/

namespace Gazette

def defaultKeyPrefix : String := "article:"

structure Config where
  cacheTtlSeconds : UInt64
  cacheKeyPrefix : String
  cacheMaxEntries : UInt64
  databasePath : String
  remoteCacheUrl : String
  deriving DecidableEq, Repr

namespace Config

def variableNames : List String :=
  ["CACHE_TTL_SECONDS", "CACHE_KEY_PREFIX", "CACHE_MAX_ENTRIES", "SQLITE_PATH", "REDIS_URL"]

def ofVariables (value? : String → Option String) : Config where
  cacheTtlSeconds := ((value? "CACHE_TTL_SECONDS").bind word64?).getD 50
  cacheKeyPrefix := (value? "CACHE_KEY_PREFIX").getD defaultKeyPrefix
  cacheMaxEntries := ((value? "CACHE_MAX_ENTRIES").bind word64?).getD 10000
  databasePath := (value? "SQLITE_PATH").getD "newsdesk.db"
  remoteCacheUrl := (value? "REDIS_URL").getD "redis://localhost:6379"

/-- The configuration that variables of octets ask for. One that is not UTF-8 counts as missing. -/
def ofEnvironment (value? : String → Option Bytes) : Config :=
  ofVariables fun name => (value? name).bind fun octets => (Utf8.decode octets).toOption

def cacheTtl (config : Config) : Duration := .ofSeconds config.cacheTtlSeconds

end Config

end Gazette
