import PackageInstall.Documents
import PackageInstall.LogBook
import PackageInstall.Settings.Fault

namespace PackageInstall

inductive InstallError where
  | podCount (job : String) (count : Nat)
  | listPods (job : String) (error : StoreError)
  | openLogs (pod : String) (error : LogError)
  | copyLogs (pod : String) (error : LogError)
  | decode (job : String) (error : DecodeError)
  | createObject (name job : String) (error : StoreError)
  | createClusterRole (role install : String) (error : StoreError)
  | clusterRoles (install job role : String) (error : StoreError)
  | fetchStackRecord (key : ObjectKey) (job : String) (error : StoreError)
  | missingStackRecord (job : String)
  | sweep (kind install : String) (error : StoreError)
  | settings (fault : SettingsFault)
  deriving DecidableEq

namespace InstallError

def roleMessage (role install : String) (error : StoreError) : String :=
  "failed to create clusterrole " ++ role ++ " for stackinstall " ++ install ++ ": " ++
    error.message

def message : InstallError → String
  | podCount job count =>
    "pod list for job " ++ job ++ " should only have 1 item, actual: " ++ toString count
  | listPods job error => "failed to list pods for job " ++ job ++ ": " ++ error.message
  | openLogs pod error =>
    "failed to get logs request stream from pod " ++ pod ++ ": " ++ error.message
  | copyLogs pod error =>
    "failed to copy logs request stream from pod " ++ pod ++ ": " ++ error.message
  | decode job error => "failed to parse output from job " ++ job ++ ": " ++ error.message
  | createObject name job error =>
    "failed to create object " ++ name ++ " from job output " ++ job ++ ": " ++ error.message
  | createClusterRole role install error => roleMessage role install error
  | clusterRoles install job role error =>
    "failed to create namespace persona clusterroles for stackinstall " ++ install ++
      " from job output " ++ job ++ ": " ++ roleMessage role install error
  | fetchStackRecord key job error =>
    "failed to retrieve created stack record " ++ key.display ++ " from job " ++ job ++ ": " ++
      error.message
  | missingStackRecord job => "failed to find a stack record from job " ++ job
  | sweep kind install error =>
    "failed to sweep " ++ kind ++ " objects owned by " ++ install ++ ": " ++ error.message
  | settings fault => "Configuration error: " ++ fault.message

end InstallError

end PackageInstall
