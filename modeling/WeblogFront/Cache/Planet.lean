import WeblogFront.Cache.Document
import WeblogFront.Cache.PlanetKey
import WeblogFront.Moment

/-! The planet cache: rendered planet views, and beside them the moment of the last update. The moment
lives as long as a view does, also where no views are kept; once it is unknown, the present moment
takes its place and is remembered. -/
namespace WeblogFront.Cache

structure Planet where
  content : Store Document
  updated : Option (Entry Moment)
  deriving DecidableEq

namespace Planet

def new (settings : Settings) : Planet :=
  ⟨Store.new planetId settings, none⟩

def openingSignals (settings : Settings) : List Signal :=
  Store.openingSignals planetId settings

def withContent (planet : Planet) (step : Step (Store Document) α) : Step Planet α :=
  ⟨{ planet with content := step.state }, step.result, step.signals⟩

def get (planet : Planet) (clock : Clock) (key : String) : Step Planet (Option Document) :=
  planet.withContent (planet.content.get clock.reading key)

def put (planet : Planet) (clock : Clock) (key : String) (document : Document) : Step Planet Unit :=
  planet.withContent (planet.content.put clock.reading key document)

def remove (planet : Planet) (key : String) : Step Planet Unit :=
  planet.withContent (planet.content.remove key)

def clear (planet : Planet) : Step Planet Unit :=
  let step := planet.content.clear
  ⟨⟨step.state, none⟩, (), step.signals⟩

def markUpdated (planet : Planet) (clock : Clock) (moment : Moment) : Planet :=
  { planet with updated := some ⟨moment, clock.reading, planet.content.timeout⟩ }

def known? (planet : Planet) (clock : Clock) : Option Moment :=
  planet.updated.bind fun entry => entry.value? clock.reading

def lastModified (planet : Planet) (clock : Clock) : Step Planet Moment :=
  match planet.known? clock with
  | some moment => ⟨planet, moment, []⟩
  | none => ⟨planet.markUpdated clock clock.wall, clock.wall, [.updateTimeUnknown planetId]⟩

end Planet

end WeblogFront.Cache
