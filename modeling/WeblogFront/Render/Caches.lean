import WeblogFront.Cache.Planet
import WeblogFront.Cache.PageKey
import WeblogFront.Cache.Salts

/-! The three caches of a running service. -/
namespace WeblogFront

structure Caches where
  pages : Cache.Store Document
  planet : Cache.Planet
  salts : Cache.Salts
  deriving DecidableEq

structure CacheSettings where
  pages : Cache.Settings
  planet : Cache.Settings
  salts : Cache.Settings
  deriving DecidableEq

namespace Caches

def new (settings : CacheSettings) : Caches where
  pages := Cache.Store.new Cache.pagesId settings.pages
  planet := .new settings.planet
  salts := Cache.Salts.new settings.salts

def openingSignals (settings : CacheSettings) : List Signal :=
  Cache.Store.openingSignals Cache.pagesId settings.pages
    ++ Cache.Planet.openingSignals settings.planet
    ++ Cache.Salts.openingSignals settings.salts

end Caches

end WeblogFront
