import PackageInstall.Level
import PackageInstall.Provenance
import PackageInstall.Store

namespace PackageInstall

inductive Note where
  | created (kind : String) (key : ObjectKey)
  | roleExists (role : String)
  | creating (job : String) (object : Object) (parent : Provenance)
  | objectExists (name kind : String)
  | anotherRecord (previous current : String)
  | recordResolved (name namespaceName : String)
  | alreadyRemoved (kind name : String)
  | swept (install : String) (deleted : Nat)
  | alreadyInstalled
  | completing (job namespaceName install : String)

namespace Note

def level : Note → Option Level
  | created .. => some .trace
  | roleExists .. | creating .. | objectExists .. | alreadyRemoved .. | alreadyInstalled =>
    some .debug
  | recordResolved .. | swept .. => some .info
  | anotherRecord .. => some .warn
  | completing .. => none

def message : Note → String
  | created .. => "object created"
  | roleExists .. => "cluster role already exists"
  | creating .. => "creating object from job output"
  | objectExists .. => "object already exists"
  | anotherRecord .. => "job output contains more than one stack record"
  | recordResolved .. => "stack record resolved from job output"
  | alreadyRemoved .. => "object already removed"
  | swept .. => "swept objects owned by install request"
  | alreadyInstalled => "global subscriber already installed"
  | completing .. => "handle_job_completion"

def fields : Note → List (String × Json)
  | created kind key => [("kind", .text kind), ("key", .text key.display)]
  | roleExists role => [("role", .text role)]
  | creating job object parent =>
    [("job", .text job), ("name", .text object.name), ("namespace", .text object.namespaceName),
      ("api_version", .text object.apiVersion), ("kind", .text object.kind),
      ("parent_group", .text parent.group), ("parent_version", .text parent.version),
      ("parent_kind", .text parent.kind), ("parent_name", .text parent.name),
      ("parent_namespace", .text parent.namespaceName), ("parent_uid", .text parent.uid)]
  | objectExists name kind => [("name", .text name), ("kind", .text kind)]
  | anotherRecord previous current => [("previous", .text previous), ("current", .text current)]
  | recordResolved name namespaceName =>
    [("stack", .text name), ("stack_namespace", .text namespaceName)]
  | alreadyRemoved kind name => [("kind", .text kind), ("name", .text name)]
  | swept install deleted => [("install", .text install), ("deleted", .int deleted)]
  | alreadyInstalled => []
  | completing job namespaceName install =>
    [("job", .text job), ("namespace", .text namespaceName), ("install", .text install)]

end Note

end PackageInstall
