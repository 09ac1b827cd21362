import Engagements.Codec
import Engagements.Error

/-!
Engagements as typed records, and the documents they are read from and written to. Fields that are
not modelled are kept as they are.
-/
namespace Engagements

structure CreationDetails where
  createdByUser : Option String
  createdByEmail : Option String
  createdOn : Option String
  deriving DecidableEq, Repr

structure Launch where
  launchedDateTime : Option String
  launchedBy : Option String
  launchedByEmail : Option String
  deriving DecidableEq, Repr

structure StatusMessage where
  severity : Option String
  message : Option String
  deriving DecidableEq, Repr

structure Status where
  overallStatus : Option String
  messages : List StatusMessage
  deriving DecidableEq, Repr

structure Commit where
  id : Option String
  message : Option String
  authorName : Option String
  authorEmail : Option String
  committedDate : Option String
  deriving DecidableEq, Repr

structure Category where
  name : Option String
  count : Option Int
  deriving DecidableEq, Repr

structure Artifact where
  title : Option String
  description : Option String
  type : Option String
  linkAddress : Option String
  deriving DecidableEq, Repr

structure HostingEnvironment where
  environmentName : Option String
  cloudProviderName : Option String
  clusterSize : Option String
  persistentStorageSize : Option String
  subDomain : Option String
  version : Option String
  deriving DecidableEq, Repr

structure EngagementUser where
  email : Option String
  firstName : Option String
  lastName : Option String
  role : Option String
  deriving DecidableEq, Repr

/-- Every field may be absent: a lookup may show a part only, and an update carries only what is
to be written. An absent list is not an empty one. -/
structure Engagement where
  storeId : Option String
  uuid : Option String
  projectId : Option Int
  customerName : Option String
  projectName : Option String
  description : Option String
  location : Option String
  startDate : Option String
  endDate : Option String
  archiveDate : Option String
  engagementType : Option String
  engagementRegion : Option String
  timezone : Option String
  publicReference : Option Bool
  lastUpdate : Option String
  creationDetails : Option CreationDetails
  launch : Option Launch
  status : Option Status
  commits : Option (List Commit)
  categories : Option (List Category)
  artifacts : Option (List Artifact)
  hostingEnvironments : Option (List HostingEnvironment)
  engagementUsers : Option (List EngagementUser)
  extra : Fields
  deriving DecidableEq, Repr

open Member in
def CreationDetails.members : List (Member CreationDetails) :=
  [optional "createdByUser" .text createdByUser fun r v => { r with createdByUser := v },
   optional "createdByEmail" .text createdByEmail fun r v => { r with createdByEmail := v },
   optional "createdOn" .text createdOn fun r v => { r with createdOn := v }]

def CreationDetails.codec : Codec CreationDetails := Record.codec "CreationDetails" ⟨none, none, none⟩ members

open Member in
def Launch.members : List (Member Launch) :=
  [optional "launchedDateTime" .text launchedDateTime
     fun r v => { r with launchedDateTime := v },
   optional "launchedBy" .text launchedBy fun r v => { r with launchedBy := v },
   optional "launchedByEmail" .text launchedByEmail fun r v => { r with launchedByEmail := v }]

def Launch.codec : Codec Launch := Record.codec "Launch" ⟨none, none, none⟩ members

open Member in
def StatusMessage.members : List (Member StatusMessage) :=
  [optional "severity" .text severity fun r v => { r with severity := v },
   optional "message" .text message fun r v => { r with message := v }]

def StatusMessage.codec : Codec StatusMessage := Record.codec "StatusMessage" ⟨none, none⟩ members

open Member in
/-- A status without messages is written without the list. -/
def Status.members : List (Member Status) :=
  [optional "overallStatus" .text overallStatus fun r v => { r with overallStatus := v },
   defaulted "messages" (.listOf StatusMessage.codec) messages
     (fun r v => { r with messages := v }) List.isEmpty]

def Status.codec : Codec Status := Record.codec "Status" ⟨none, []⟩ members

open Member in
def Commit.members : List (Member Commit) :=
  [optional "id" .text id fun r v => { r with id := v },
   optional "message" .text message fun r v => { r with message := v },
   optional "authorName" .text authorName fun r v => { r with authorName := v },
   optional "authorEmail" .text authorEmail fun r v => { r with authorEmail := v },
   optional "committedDate" .text committedDate fun r v => { r with committedDate := v }]

def Commit.codec : Codec Commit := Record.codec "Commit" ⟨none, none, none, none, none⟩ members

open Member in
def Category.members : List (Member Category) :=
  [optional "name" .text name fun r v => { r with name := v },
   optional "count" .signed64 count fun r v => { r with count := v }]

def Category.codec : Codec Category := Record.codec "Category" ⟨none, none⟩ members

open Member in
def Artifact.members : List (Member Artifact) :=
  [optional "title" .text title fun r v => { r with title := v },
   optional "description" .text description fun r v => { r with description := v },
   optional "type" .text type fun r v => { r with type := v },
   optional "linkAddress" .text linkAddress fun r v => { r with linkAddress := v }]

def Artifact.codec : Codec Artifact := Record.codec "Artifact" ⟨none, none, none, none⟩ members

open Member in
def HostingEnvironment.members : List (Member HostingEnvironment) :=
  [optional "environmentName" .text environmentName fun r v => { r with environmentName := v },
   optional "ocpCloudProviderName" .text cloudProviderName
     fun r v => { r with cloudProviderName := v },
   optional "ocpClusterSize" .text clusterSize fun r v => { r with clusterSize := v },
   optional "ocpPersistentStorageSize" .text persistentStorageSize
     fun r v => { r with persistentStorageSize := v },
   optional "ocpSubDomain" .text subDomain fun r v => { r with subDomain := v },
   optional "ocpVersion" .text version fun r v => { r with version := v }]

def HostingEnvironment.codec : Codec HostingEnvironment :=
  Record.codec "HostingEnvironment" ⟨none, none, none, none, none, none⟩ members

open Member in
def EngagementUser.members : List (Member EngagementUser) :=
  [optional "email" .text email fun r v => { r with email := v },
   optional "firstName" .text firstName fun r v => { r with firstName := v },
   optional "lastName" .text lastName fun r v => { r with lastName := v },
   optional "role" .text role fun r v => { r with role := v }]

def EngagementUser.codec : Codec EngagementUser :=
  Record.codec "EngagementUser" ⟨none, none, none, none⟩ members

namespace Engagement

def empty : Engagement :=
  ⟨none, none, none, none, none, none, none, none, none, none, none, none, none, none, none, none,
    none, none, none, none, none, none, none, []⟩

instance : Inhabited Engagement := ⟨empty⟩

open Member in
/-- The modelled fields in the order in which they are written. -/
def members : List (Member Engagement) :=
  [optional "_id" .text storeId fun r v => { r with storeId := v },
   optional "uuid" .text uuid fun r v => { r with uuid := v },
   optional "projectId" .signed64 projectId fun r v => { r with projectId := v },
   optional "customerName" .text customerName fun r v => { r with customerName := v },
   optional "projectName" .text projectName fun r v => { r with projectName := v },
   optional "description" .text description fun r v => { r with description := v },
   optional "location" .text location fun r v => { r with location := v },
   optional "startDate" .text startDate fun r v => { r with startDate := v },
   optional "endDate" .text endDate fun r v => { r with endDate := v },
   optional "archiveDate" .text archiveDate fun r v => { r with archiveDate := v },
   optional "engagementType" .text engagementType fun r v => { r with engagementType := v },
   optional "engagementRegion" .text engagementRegion fun r v => { r with engagementRegion := v },
   optional "timezone" .text timezone fun r v => { r with timezone := v },
   optional "publicReference" .flag publicReference fun r v => { r with publicReference := v },
   optional "lastUpdate" .text lastUpdate fun r v => { r with lastUpdate := v },
   optional "creationDetails" CreationDetails.codec creationDetails
     fun r v => { r with creationDetails := v },
   optional "launch" Launch.codec launch fun r v => { r with launch := v },
   optional "status" Status.codec status fun r v => { r with status := v },
   optional "commits" (.listOf Commit.codec) commits fun r v => { r with commits := v },
   optional "categories" (.listOf Category.codec) categories fun r v => { r with categories := v },
   optional "artifacts" (.listOf Artifact.codec) artifacts fun r v => { r with artifacts := v },
   optional "hostingEnvironments" (.listOf HostingEnvironment.codec) hostingEnvironments
     fun r v => { r with hostingEnvironments := v },
   optional "engagementUsers" (.listOf EngagementUser.codec) engagementUsers
     fun r v => { r with engagementUsers := v }]

def addExtra (engagement : Engagement) (name : String) (value : Value) : Engagement :=
  { engagement with extra := Fields.insert engagement.extra name value }

/-- Reads a document; the first field that does not fit decides the error. -/
def ofDocument (document : Document) : Result Engagement :=
  (Record.readFields members addExtra empty document).mapError .serialization

/-- The modelled fields that are present come first, then the others. -/
def toDocument (engagement : Engagement) : Document :=
  Fields.insertAll (Record.writeMembers members engagement) engagement.extra

def isLaunched (engagement : Engagement) : Bool := engagement.launch.isSome

/-- The subdomains of an engagement, the blank ones left aside. -/
def subDomains (engagement : Engagement) : List String :=
  ((engagement.hostingEnvironments.getD []).filterMap (·.subDomain)).filter (!Text.isBlank ·)

end Engagement

end Engagements
