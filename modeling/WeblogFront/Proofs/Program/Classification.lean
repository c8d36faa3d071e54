import WeblogFront.Proofs.Http.Previews
import WeblogFront.Proofs.Text.Cut
import WeblogFront.Program

/-! One address, read at the command line and read by the service. Both cut it into mount point, path and
parameters, each in its own way, and hand what they find to the classifier. They come to the same
descriptor unless the path runs on behind a mount point without a slash: the command line takes the
mount point for the beginning of a text, the service for whole segments. -/
namespace WeblogFront.Http

open WeblogFront.Request (Classifier Profile)

section Mounts

variable {mount other : String} {path rest : List Char} {profile : Profile}

theorem after_mount (mount rest : List Char) : Text.after? mount (mount ++ rest) = some rest :=
  List.isPrefixOf?_eq_some_iff_append_eq.mpr rfl

theorem after_other (unmounted : ¬ mount.toList <+: path) : Text.after? mount.toList path = none := by
  apply Option.eq_none_iff_forall_ne_some.mpr
  intro rest found
  exact unmounted ⟨rest, List.isPrefixOf?_eq_some_iff_append_eq.mp found⟩

theorem below_other (unmounted : ¬ mount.toList <+: path) : below? mount (String.ofList path) = none := by
  unfold below?
  rw [String.toList_ofList, after_other unmounted]

/-- Neither is the beginning of the other, so that no path lies below both. -/
def Apart (mount other : String) : Prop :=
  ¬ mount.toList <+: other.toList ∧ ¬ other.toList <+: mount.toList

theorem Apart.below (apart : Apart mount other) (rest : List Char) :
    ¬ other.toList <+: mount.toList ++ rest := by
  intro starts
  rcases List.prefix_or_prefix_of_prefix (List.prefix_append mount.toList rest) starts with first | second
  · exact apart.1 first
  · exact apart.2 second

theorem mounts_apart : Apart Profile.preview.mount Profile.page.mount :=
  ⟨by decide +kernel, by decide +kernel⟩

def Mounted (profile : Profile) : Prop :=
  profile = .page ∨ profile = .preview

def located (profile : Profile) (path : Option String) : Resource :=
  if profile.previews then .preview path else .page path

def handler (profile : Profile) (path : Option String) : Action :=
  if profile.previews then .preview path else .page path

theorem handler_inj {left right : Profile} {path found : Option String} (mounted : Mounted left)
    (also : Mounted right) (same : handler left path = handler right found) :
    left = right ∧ path = found := by
  rcases mounted with rfl | rfl <;> rcases also with rfl | rfl <;> cases same <;> exact ⟨rfl, rfl⟩

theorem resource_of_mount (mounted : Mounted profile) (rest : List Char) :
    resource? (String.ofList (profile.mount.toList ++ rest)) =
      (below? profile.mount (String.ofList (profile.mount.toList ++ rest))).map (located profile) := by
  have unplanned : ¬ planetMount.toList <+: profile.mount.toList ++ rest := by
    apply Apart.below
    rcases mounted with rfl | rfl <;> exact ⟨by decide +kernel, by decide +kernel⟩
  have unsalted : ¬ saltMount.toList <+: profile.mount.toList ++ rest := by
    apply Apart.below
    rcases mounted with rfl | rfl <;> exact ⟨by decide +kernel, by decide +kernel⟩
  have unhealthy : String.ofList (profile.mount.toList ++ rest) ≠ "/_health" := by
    intro same
    have starts : profile.mount.toList <+: "/_health".toList :=
      ⟨rest, by rw [← same, String.toList_ofList]⟩
    revert starts
    rcases mounted with rfl | rfl <;> decide +kernel
  unfold resource?
  rw [below_other unplanned, below_other unsalted, if_neg unhealthy]
  rcases mounted with rfl | rfl
  · have unpreviewed : ¬ Profile.preview.mount.toList <+: Profile.page.mount.toList ++ rest :=
      Apart.below ⟨mounts_apart.2, mounts_apart.1⟩ rest
    rw [below_other unpreviewed]
    cases below? Profile.page.mount (String.ofList (Profile.page.mount.toList ++ rest)) <;> rfl
  · rw [below_other (mounts_apart.below rest)]
    cases below? Profile.preview.mount (String.ofList (Profile.preview.mount.toList ++ rest)) <;> rfl

theorem dispatch_of_mount (mounted : Mounted profile) (rest : List Char) :
    dispatch "GET" (String.ofList (profile.mount.toList ++ rest)) =
      match below? profile.mount (String.ofList (profile.mount.toList ++ rest)) with
      | some path => .run (handler profile path)
      | none => .unknown := by
  unfold dispatch
  rw [resource_of_mount mounted]
  rcases mounted with rfl | rfl <;>
    cases below? _ _ <;> rfl

theorem dispatch_unmounted {method : String} {found : Option String} (mounted : Mounted profile)
    (unmounted : ∀ other, Mounted other → ¬ other.mount.toList <+: path) :
    dispatch method (String.ofList path) ≠ .run (handler profile found) := by
  unfold dispatch resource? reading
  rw [below_other (unmounted .page (.inl rfl)), below_other (unmounted .preview (.inr rfl))]
  rcases mounted with rfl | rfl <;> dsimp only <;> grind [handler]

theorem dispatch_mounted {found : Option String} (mounted : Mounted profile)
    (dispatched : dispatch "GET" (String.ofList path) = .run (handler profile found)) :
    profile.mount.toList <+: path := by
  by_contra strange
  have unmounted : ∀ other, Mounted other → ¬ other.mount.toList <+: path := by
    rintro other otherMounted ⟨rest, whole⟩
    rw [← whole, dispatch_of_mount otherMounted] at dispatched
    cases below : below? other.mount (String.ofList (other.mount.toList ++ rest)) with
    | none =>
      rw [below] at dispatched
      cases dispatched
    | some path =>
      rw [below] at dispatched
      obtain ⟨same, _⟩ := handler_inj otherMounted mounted (Dispatch.run.inj dispatched)
      exact strange (same ▸ ⟨rest, whole⟩)
  exact dispatch_unmounted mounted unmounted dispatched

theorem below_end (mount : String) : below? mount (String.ofList (mount.toList ++ [])) = some none := by
  unfold below?
  rw [String.toList_ofList, after_mount]

theorem below_segment (mount : String) (c : Char) (tail : List Char) :
    below? mount (String.ofList (mount.toList ++ '/' :: c :: tail)) =
      some (some (String.ofList ('/' :: c :: tail))) := by
  unfold below?
  rw [String.toList_ofList, after_mount]
  rfl

theorem below_slash (mount : String) : below? mount (String.ofList (mount.toList ++ ['/'])) = none := by
  unfold below?
  rw [String.toList_ofList, after_mount]
  rfl

theorem below_run_on (mount : String) {c : Char} (other : c ≠ '/') (tail : List Char) :
    below? mount (String.ofList (mount.toList ++ c :: tail)) = none := by
  unfold below?
  rw [String.toList_ofList, after_mount]
  split
  case h_1 => rename_i same; cases same
  case h_2 => rename_i same; cases same; exact absurd rfl other
  case h_3 => rfl

end Mounts

section Addresses

variable {url : String} {path : List Char} {profile : Profile}

/-- A name that a header can carry as it is: plain characters, and no blank at either end. -/
structure PlainName (name : String) : Prop where
  plain : name.toList.all isPlain = true
  trimmed : Text.trim name.toList = name.toList
  nonempty : name ≠ ""

theorem PlainName.vouched {name : String} (named : PlainName name) :
    remoteUser? [(remoteUserHeader, name)] = some name := by
  have plain : plainText? name = some name := by
    rw [plainText?, if_pos named.plain, named.trimmed, String.ofList_toList]
  have filled : (!name.isEmpty) = true := by simpa using named.nonempty
  rw [remoteUser?, headerText?, header_value_here, Option.bind_some, plain, Option.filter_some,
    if_pos filled]

/-- The request for an address, as the proxy sends it on for a user or for nobody. -/
def Request.get (url : String) (user : Option String) : Request :=
  ⟨"GET", .parse url, (user.map fun name => (remoteUserHeader, name)).toList⟩

theorem get_user {user : Option String} (vouched : ∀ name ∈ user, PlainName name) :
    remoteUser? (Request.get url user).headers = user := by
  cases user with
  | none => rfl
  | some name => exact (vouched name rfl).vouched

/-- A path, perhaps with parameters: it begins with a slash and has no fragment. -/
structure Addressed (url : String) (path : List Char) (query : Option (List Char)) : Prop where
  cut : Text.Opens '?' path query url.toList
  rooted : ['/'] <+: url.toList
  whole : '#' ∉ url.toList

theorem Addressed.target {query : Option (List Char)} (addressed : Addressed url path query) :
    Target.parse url = ⟨String.ofList path, String.ofList (query.getD [])⟩ := by
  have cut := Text.cut_eq_iff.mpr addressed.cut
  obtain ⟨rest, rooted⟩ := addressed.rooted
  have absolute : afterAuthority url.toList = url.toList := by
    rw [← rooted]
    rfl
  have nonempty : path.isEmpty = false := by
    rw [← rooted] at cut
    cases cut
    rfl
  unfold Target.parse
  rw [Text.cut_clean addressed.whole]
  dsimp only
  rw [absolute, cut, nonempty]
  rfl

end Addresses

section FrontEnds

variable {url : String} {path : List Char} {query : Option (List Char)} {user : Option String}
  {profile : Profile} {service : Service} {descriptor : Descriptor}

theorem locate_of_mount (mounted : Mounted profile) (tagLimit : Nat) (rest : List Char) :
    Program.locate tagLimit (profile.mount.toList ++ rest) =
      ⟨⟨profile, tagLimit⟩, profile.mount, Program.nonempty? rest⟩ := by
  unfold Program.locate
  rcases mounted with rfl | rfl
  · have unpreviewed :
        Profile.preview.mount.toList.isPrefixOf (Profile.page.mount.toList ++ rest) = false :=
      Bool.eq_false_iff.mpr fun starts =>
        Apart.below ⟨mounts_apart.2, mounts_apart.1⟩ rest (List.isPrefixOf_iff_prefix.mp starts)
    simp only [unpreviewed, Bool.false_eq_true, if_false]
    rw [show (Classifier.page tagLimit).profile = .page from rfl, after_mount]
    rfl
  · have previewed :
        Profile.preview.mount.toList.isPrefixOf (Profile.preview.mount.toList ++ rest) = true :=
      List.isPrefixOf_iff_prefix.mpr (List.prefix_append _ _)
    simp only [previewed, if_true]
    rw [show (Classifier.preview tagLimit).profile = .preview from rfl, after_mount]
    rfl

theorem locate_unmounted (unmounted : ∀ profile, Mounted profile → ¬ profile.mount.toList <+: path)
    (tagLimit : Nat) :
    Program.locate tagLimit path = ⟨⟨.page, tagLimit⟩, String.ofList path, none⟩ := by
  have unpreviewed : Profile.preview.mount.toList.isPrefixOf path = false :=
    Bool.eq_false_iff.mpr fun starts => unmounted .preview (.inr rfl) (List.isPrefixOf_iff_prefix.mp starts)
  unfold Program.locate
  simp only [unpreviewed, Bool.false_eq_true, if_false]
  rw [show (Classifier.page tagLimit).profile = .page from rfl, after_other (unmounted .page (.inl rfl))]
  rfl

/-- The service hands the request to the handler of a profile, and there the classifier accepts it. -/
def Service.Understands (service : Service) (request : Request) (profile : Profile)
    (descriptor : Descriptor) : Prop :=
  ∃ path, dispatch request.method request.target.path = .run (handler profile path) ∧
    Classifier.classify ⟨profile, service.tagLimit⟩ (rawRequest profile path request) = .ok descriptor

/-- A path that runs on behind a mount point without a slash. -/
def RunsOn (path : List Char) : Prop :=
  ∃ profile c rest, Mounted profile ∧ c ≠ '/' ∧ path = profile.mount.toList ++ c :: rest

-- A slash and nothing behind it names no weblog.
theorem bare_slash_refused (classifier : Classifier) (query : Query) (user : Option String) :
    ¬ ∃ descriptor,
      classifier.classify ⟨classifier.profile.mount, some "/", query, user⟩ = .ok descriptor := by
  rintro ⟨descriptor, accepted⟩
  obtain ⟨_, _, _, _, named, _⟩ := WeblogFront.Request.classify_cases accepted
  have long := (WeblogFront.Request.names_weblog_iff.mp named).1
  revert long
  decide +kernel

theorem classify_below (addressed : Addressed url path query) (mounted : Mounted profile) {rest : List Char}
    (whole : path = profile.mount.toList ++ rest) (tagLimit : Nat) (flags : CommandLine.ClassifyFlags)
    (named : flags.url = url) :
    Program.classify tagLimit flags =
      Classifier.classify ⟨profile, tagLimit⟩
        ⟨profile.mount, Program.nonempty? rest, .parse (String.ofList (query.getD [])), flags.user⟩ := by
  unfold Program.classify
  rw [named, Text.cut_eq_iff.mpr addressed.cut]
  dsimp only
  rw [whole, locate_of_mount mounted]

theorem understood_below (addressed : Addressed url path query) (vouched : ∀ name ∈ user, PlainName name)
    (mounted : Mounted profile) {rest : List Char} (whole : path = profile.mount.toList ++ rest)
    (straight : ¬ RunsOn path) (service : Service) (limit : Option Nat) (descriptor : Descriptor) :
    Program.classify service.tagLimit ⟨limit, user, url⟩ = .ok descriptor ↔
      service.Understands (.get url user) profile descriptor := by
  have sent : (Request.get url user).target =
      ⟨String.ofList (profile.mount.toList ++ rest), String.ofList (query.getD [])⟩ :=
    whole ▸ addressed.target
  have raw (found : Option String) : Service.rawRequest profile found (.get url user) =
      ⟨profile.mount, found, .parse (String.ofList (query.getD [])), user⟩ := by
    rw [Service.rawRequest, get_user vouched, sent]
  unfold Service.Understands
  rw [classify_below addressed mounted whole service.tagLimit ⟨limit, user, url⟩ rfl, sent]
  simp only [raw]
  change _ ↔ ∃ found, dispatch "GET" _ = _ ∧ _
  rw [dispatch_of_mount mounted]
  have alone (found other : Option String) (same : Dispatch.run (handler profile found) =
      .run (handler profile other)) : found = other :=
    (handler_inj mounted mounted (Dispatch.run.inj same)).2
  cases rest with
  | nil =>
    rw [below_end]
    constructor
    · exact fun accepted => ⟨none, rfl, accepted⟩
    · rintro ⟨found, same, accepted⟩
      rw [← alone _ _ same] at accepted
      exact accepted
  | cons c tail =>
    by_cases slash : c = '/'
    · subst slash
      cases tail with
      | nil =>
        rw [below_slash]
        constructor
        · intro accepted
          exact absurd ⟨descriptor, accepted⟩ (bare_slash_refused ⟨profile, service.tagLimit⟩ _ user)
        · rintro ⟨found, unknown, _⟩
          cases unknown
      | cons d tail =>
        rw [below_segment]
        constructor
        · exact fun accepted => ⟨_, rfl, accepted⟩
        · rintro ⟨found, same, accepted⟩
          rw [← alone _ _ same] at accepted
          exact accepted
    · exact absurd ⟨profile, c, tail, mounted, slash, whole⟩ straight

theorem run_on_unknown (addressed : Addressed url path query) (user : Option String)
    (strays : RunsOn path) :
    dispatch "GET" (Request.get url user).target.path = .unknown := by
  obtain ⟨profile, c, rest, mounted, other, whole⟩ := strays
  change dispatch "GET" (Target.parse url).path = _
  rw [addressed.target, whole, dispatch_of_mount mounted, below_run_on _ other]

theorem unmounted_refused (addressed : Addressed url path query)
    (unmounted : ∀ profile, Mounted profile → ¬ profile.mount.toList <+: path) (tagLimit : Nat)
    (limit : Option Nat) (descriptor : Descriptor) :
    Program.classify tagLimit ⟨limit, user, url⟩ ≠ .ok descriptor := by
  have foreign : String.ofList path ≠ Profile.page.mount := by
    intro same
    refine unmounted .page (.inl rfl) ⟨[], ?_⟩
    rw [← same, String.toList_ofList, List.append_nil]
  unfold Program.classify
  rw [Text.cut_eq_iff.mpr addressed.cut]
  dsimp only
  rw [locate_unmounted unmounted]
  unfold Classifier.classify
  rw [if_pos foreign]
  exact fun accepted => nomatch accepted

theorem understood_iff (addressed : Addressed url path query) (vouched : ∀ name ∈ user, PlainName name)
    (service : Service) (limit : Option Nat) (descriptor : Descriptor) :
    (∃ profile, Mounted profile ∧ service.Understands (.get url user) profile descriptor) ↔
      Program.classify service.tagLimit ⟨limit, user, url⟩ = .ok descriptor ∧ ¬ RunsOn path := by
  constructor
  · rintro ⟨profile, mounted, found, dispatched, accepted⟩
    have straight : ¬ RunsOn path := by
      intro strays
      cases (run_on_unknown addressed user strays).symm.trans dispatched
    have reached : dispatch "GET" (String.ofList path) = .run (handler profile found) := by
      rw [← dispatched, show (Request.get url user).target = _ from addressed.target]
      rfl
    obtain ⟨rest, whole⟩ := dispatch_mounted mounted reached
    have below := understood_below addressed vouched mounted whole.symm straight service limit descriptor
    exact ⟨below.mpr ⟨found, dispatched, accepted⟩, straight⟩
  · rintro ⟨accepted, straight⟩
    by_cases below : ∃ profile, Mounted profile ∧ profile.mount.toList <+: path
    · obtain ⟨profile, mounted, rest, whole⟩ := below
      have below := understood_below addressed vouched mounted whole.symm straight service limit descriptor
      exact ⟨profile, mounted, below.mp accepted⟩
    · have unmounted : ∀ profile, Mounted profile → ¬ profile.mount.toList <+: path :=
        fun profile mounted starts => below ⟨profile, mounted, starts⟩
      exact absurd accepted (unmounted_refused addressed unmounted service.tagLimit limit descriptor)

theorem get_responds (understood : service.Understands (.get url user) .page descriptor) (arrival : Arrival)
    (caches : Caches) :
    let step := Render.page service.lookups arrival.clock.reading caches.pages (.fresh descriptor)
    let id := Service.requestId arrival (Request.get url user).headers
    (service.respond arrival caches (.get url user)).state.pages = step.state.store ∧
      (service.respond arrival caches (.get url user)).result =
        (Response.ofResult step.result false).withHeader requestIdHeader id := by
  obtain ⟨found, dispatched, accepted⟩ := understood
  have handled : service.handle arrival caches (.get url user) =
      service.page .page found arrival caches (.get url user) := by
    unfold Service.handle
    rw [dispatched]
    rfl
  have rendered : service.page .page found arrival caches (.get url user) =
      let step := Render.page service.lookups arrival.clock.reading caches.pages (.fresh descriptor)
      ⟨{ caches with pages := step.state.store }, .ofResult step.result false,
        .classified .page :: step.signals⟩ := by
    unfold Service.page
    dsimp only
    rw [accepted]
    rfl
  rw [respond_result]
  unfold Service.respond
  rw [handled, rendered]
  exact ⟨rfl, rfl⟩

theorem failure_status (failure : Failure) (id : String) :
    headerValue? ((Response.ofFailure failure).withHeader requestIdHeader id).headers cacheStatusHeader =
      none := by
  have written : ((Response.ofFailure failure).withHeader requestIdHeader id).headers =
      [("content-type", textType), (requestIdHeader, id)] := rfl
  rw [written, header_value_behind (by decide +kernel), header_value_behind (by decide +kernel)]
  rfl

theorem respond_page (understood : service.Understands (.get url user) .page descriptor) (arrival : Arrival)
    (caches : Caches) :
    let step := service.respond arrival caches (.get url user)
    (∀ holds, caches.pages.Keeps holds →
      step.state.pages.Keeps fun key document => holds key document ∨ key = Cache.pageKey descriptor) ∧
    (headerValue? step.result.headers cacheStatusHeader = some "MISS" → caches.pages.isEnabled = true →
      ∃ document : Document, document.body = step.result.body ∧
        ∀ later, later - arrival.clock.reading < caches.pages.timeout →
          (step.state.pages.get later (Cache.pageKey descriptor)).result = some document) := by
  intro step
  obtain ⟨stored, answered⟩ := get_responds understood arrival caches
  have shared : descriptor.isPreview = false := by
    obtain ⟨found, dispatched, accepted⟩ := understood
    rw [Descriptor.isPreview, WeblogFront.Request.classified_preview accepted]
    rfl
  rw [stored, answered]
  change _ ∧ (_ → _ → ∃ document : Document, document.body = (Response.ofResult _ false).body ∧ _)
  rcases Render.page_cases service.lookups arrival.clock.reading caches.pages (.fresh descriptor)
      rfl rfl rfl with
    ⟨previewed, _⟩ | ⟨_, document, _, outcome⟩ | ⟨_, _, failure, _, outcome⟩ | ⟨_, _, document, _, outcome⟩
  · cases previewed.symm.trans shared
  · rw [outcome]
    refine ⟨fun holds keeps => (keeps.mono fun _ _ => .inl).get _ _, fun missed _ => ?_⟩
    have same : "HIT" = "MISS" :=
      Option.some.inj ((rendered_status ⟨document, some _, true⟩ false _).symm.trans missed)
    exact absurd same (by decide)
  · rw [outcome]
    refine ⟨fun holds keeps => (keeps.mono fun _ _ => .inl).get _ _, fun missed _ => ?_⟩
    cases (failure_status failure _).symm.trans missed
  · rw [outcome]
    refine ⟨fun holds keeps => ((keeps.mono fun _ _ => .inl).get _ _).put (.inr rfl), fun _ enabled => ?_⟩
    refine ⟨document, rfl, fun later alive => Cache.Store.get_put ?_ ?_⟩
    · exact (Cache.Store.enabled_locked _ _ _ _).trans enabled
    · exact lt_of_lt_of_eq alive (Cache.Store.timeout_locked _ _ _ _).symm

theorem printed_key (descriptor : Descriptor) :
    ∃ members, Program.describe descriptor = .record members ∧
      members.lookup "cache_key" = some (.text (Cache.pageKey descriptor)) :=
  ⟨_, rfl, rfl⟩

/-- The command line and the service come to the same descriptors for an address that does not run on behind
a mount point; for one that does, the service knows no page, whatever the command line says. Where
they agree on a page, the key that is printed is the one that the service stores the page under. -/
theorem front_ends_agree (addressed : Addressed url path query) (vouched : ∀ name ∈ user, PlainName name)
    (service : Service) (limit : Option Nat) :
    (∀ descriptor,
      (∃ profile, Mounted profile ∧ service.Understands (.get url user) profile descriptor) ↔
        Program.classify service.tagLimit ⟨limit, user, url⟩ = .ok descriptor ∧ ¬ RunsOn path) ∧
    (RunsOn path → dispatch "GET" (Request.get url user).target.path = .unknown) ∧
    ∀ descriptor, service.Understands (.get url user) .page descriptor →
      (∃ members, Program.describe descriptor = .record members ∧
        members.lookup "cache_key" = some (.text (Cache.pageKey descriptor))) ∧
      ∀ (arrival : Arrival) (caches : Caches),
        let step := service.respond arrival caches (.get url user)
        (∀ holds, caches.pages.Keeps holds →
          step.state.pages.Keeps fun key document => holds key document ∨ key = Cache.pageKey descriptor) ∧
        (headerValue? step.result.headers cacheStatusHeader = some "MISS" → caches.pages.isEnabled = true →
          ∃ document : Document, document.body = step.result.body ∧
            ∀ later, later - arrival.clock.reading < caches.pages.timeout →
              (step.state.pages.get later (Cache.pageKey descriptor)).result = some document) := by
  refine ⟨understood_iff addressed vouched service limit,
    run_on_unknown addressed user, ?_⟩
  intro descriptor understood
  exact ⟨printed_key descriptor, fun arrival caches => respond_page understood arrival caches⟩

theorem accepted_of_some {result : Except Rejection Descriptor} (accepts : result.toOption.isSome = true) :
    ∃ descriptor, result = .ok descriptor := by
  cases result with
  | error rejection => cases accepts
  | ok descriptor => exact ⟨descriptor, rfl⟩

-- The command line takes the letters behind the mount point for a weblog; the service knows no such page.
theorem run_on_address_accepted :
    let site : Site.Contents := ⟨[], [⟨"alice", "Alice", none, "basic", [], [], []⟩]⟩
    let service : Service := ⟨site.lookups, 3⟩
    let stray := "/roller-ui/rendering/pagealice"
    let straight := "/roller-ui/rendering/page/alice?lang=en"
    let arrival : Arrival := ⟨⟨5, ⟨0, 0, 0⟩⟩, [], []⟩
    let caches := Caches.new ⟨.pages, .planet, .salts⟩
    let step := service.respond arrival caches (.get straight (some "bob"))
    (∃ descriptor, Program.classify 3 ⟨none, none, stray⟩ = .ok descriptor) ∧
    dispatch "GET" (Request.get stray none).target.path = .unknown ∧
    ∃ descriptor, Program.classify 3 ⟨none, some "bob", straight⟩ = .ok descriptor ∧
      ∃ document, document.body = step.result.body ∧
        (step.state.pages.get 6 (Cache.pageKey descriptor)).result = some document := by
  intro site service stray straight arrival caches step
  have strays : RunsOn stray.toList :=
    ⟨.page, 'a', "lice".toList, .inl rfl, by decide, by decide +kernel⟩
  have strayAddress : Addressed stray stray.toList none :=
    ⟨Text.cut_eq_iff.mp (by decide +kernel), by decide +kernel, by decide +kernel⟩
  have straightAddress :
      Addressed straight "/roller-ui/rendering/page/alice".toList (some "lang=en".toList) :=
    ⟨Text.cut_eq_iff.mp (by decide +kernel), by decide +kernel, by decide +kernel⟩
  have bob : ∀ name ∈ some "bob", PlainName name := by
    rintro name ⟨⟩
    exact ⟨by decide +kernel, by decide +kernel, by decide⟩
  have nobody : ∀ name ∈ none, PlainName name := fun _ absent => nomatch absent
  obtain ⟨_, unknown, _⟩ := front_ends_agree strayAddress nobody service none
  obtain ⟨agree, _, keyed⟩ := front_ends_agree straightAddress bob service none
  have accepts : (Classifier.classify ⟨.page, 3⟩ (Service.rawRequest .page (some "/alice")
      (.get straight (some "bob")))).toOption.isSome = true := by decide +kernel
  obtain ⟨descriptor, accepted⟩ := accepted_of_some accepts
  have understood : service.Understands (.get straight (some "bob")) .page descriptor :=
    ⟨some "/alice", by decide +kernel, accepted⟩
  obtain ⟨document, body, kept⟩ :=
    ((keyed descriptor understood).2 arrival caches).2 (by decide +kernel) rfl
  exact ⟨accepted_of_some (by decide +kernel), unknown strays, descriptor,
    ((agree descriptor).mp ⟨.page, .inl rfl, understood⟩).1, document, body, kept 6 (by decide)⟩

end FrontEnds

end WeblogFront.Http
