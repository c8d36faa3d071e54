import WeblogFront.Cache.PageKey
import WeblogFront.Http.Service
import WeblogFront.Settings.Load
import WeblogFront.Settings.LogFilter
import WeblogFront.Site.File

/-! The program as one function of its arguments and surroundings. It either prints a classification,
is ready to serve, or ends with a failure, which the log shows unless logging is off. -/
namespace WeblogFront.Program

structure Ready where
  settings : Settings.Checked
  site : Site.Contents

inductive Ending where
  | printed (text : String)
  | ready (server : Ready)
  | failed (failure : Failure) (logged : Bool)
  | misused (error : CommandLine.ArgumentError)

/-- An address without its mount point; what is under no mount point is taken for a mount point itself. -/
structure Located where
  classifier : Request.Classifier
  mount : String
  path : Option String

def nonempty? (text : List Char) : Option String :=
  if text.isEmpty then none else some (String.ofList text)

/-- Addresses that start like the preview mount point belong to it, all others to the page mount point. -/
def locate (tagLimit : Nat) (path : List Char) : Located :=
  let classifier := if Request.Profile.preview.mount.toList.isPrefixOf path then
    Request.Classifier.preview tagLimit else Request.Classifier.page tagLimit
  match Text.after? classifier.profile.mount.toList path with
  | some rest => ⟨classifier, classifier.profile.mount, nonempty? rest⟩
  | none => ⟨classifier, String.ofList path, none⟩

def describe (descriptor : Descriptor) : Json :=
  .record [
    ("anchor", .ofText? descriptor.anchor),
    ("cache_key", .text (Cache.pageKey descriptor)),
    ("category", .ofText? descriptor.category),
    ("content_page_hit", .flag descriptor.contentHit),
    ("context", .text descriptor.context.name),
    ("date", .ofText? descriptor.date),
    ("homepage_hit", .flag descriptor.homepageHit),
    ("locale", .ofText? descriptor.locale),
    ("page", .ofText? descriptor.customPage),
    ("page_number", .number descriptor.pageNumber),
    ("parameters", descriptor.parameters.toJson),
    ("preview", .ofRecord? (fun preview => .record [
      ("preview_entry", .ofText? preview.entry),
      ("theme_name", .ofText? preview.theme),
      ("type", .text preview.kind)]) descriptor.preview),
    ("tags", .ofTexts? descriptor.tags),
    ("user", .ofText? descriptor.user),
    ("weblog", .text descriptor.handle)]

def classify (tagLimit : Nat) (flags : CommandLine.ClassifyFlags) : Except Rejection Descriptor :=
  let parts := Text.cutOnce '?' flags.url.toList
  let located := locate tagLimit parts.1
  located.classifier.classify
    { mount := located.mount
      path := located.path
      query := .parse (String.ofList (parts.2.getD []))
      principal := flags.user }

def loadSite (surroundings : Surroundings) (settings : Settings.Checked) :
    Except Failure Site.Contents :=
  match settings.siteFile with
  | none => .ok .empty
  | some path => Site.loadFile surroundings.files path

/-- The site comes first; then the address must be one of the machine's own. -/
def prepare (surroundings : Surroundings) (settings : Settings.Checked) : Except Failure Ready := do
  let site ← loadSite surroundings settings
  if surroundings.owns settings.address then .ok ⟨settings, site⟩
  else .error (.file "Cannot assign requested address (os error 99)")

def filterVariable : String := "RUST_LOG"

def logName : String := "roller_render"

/-- A failure after the settings are known is shown unless its level is turned off. -/
def isLogged (surroundings : Surroundings) (settings : Settings.Checked) : Bool :=
  let filter := (surroundings.environment.lookup filterVariable).getD ""
  Settings.LogFilter.levelFor filter settings.logLevel logName != .off

def perform (surroundings : Surroundings) (settings : Settings.Checked) :
    Option CommandLine.Task → Ending
  | some (.classify flags) =>
    match classify settings.tagLimit flags with
    | .ok descriptor => .printed (describe descriptor).pretty
    | .error rejection => .failed (.rejected rejection) (isLogged surroundings settings)
  | _ =>
    match prepare surroundings settings with
    | .ok server => .ready server
    | .error failure => .failed failure (isLogged surroundings settings)

def invocation (environment : List (String × String)) (words : List String) :
    Except CommandLine.ArgumentError CommandLine.Invocation :=
  CommandLine.Invocation.parse words (environment.lookup CommandLine.settingsVariable)

def settingsPaths (environment : List (String × String)) (words : List String) : List String :=
  match invocation environment words with
  | .error _ => []
  | .ok invocation => Settings.candidates invocation

def sitePaths (surroundings : Surroundings) (words : List String) : List String :=
  match invocation surroundings.environment words with
  | .error _ => []
  | .ok invocation =>
    match Settings.load surroundings invocation with
    | .error _ => []
    | .ok settings => settings.siteFile.toList

def run (surroundings : Surroundings) (words : List String) : Ending :=
  match invocation surroundings.environment words with
  | .error error => .misused error
  | .ok invocation =>
    match Settings.load surroundings invocation with
    | .error problem => .failed (.settings problem) true
    | .ok settings => perform surroundings settings invocation.task

/-- Zero for success and for help, two for a misused command line, one for every other failure. -/
def exitCode : Ending → Nat
  | .printed _ => 0
  | .ready _ => 0
  | .failed _ _ => 1
  | .misused .displayHelp => 0
  | .misused .displayVersion => 0
  | .misused _ => 2

end WeblogFront.Program
