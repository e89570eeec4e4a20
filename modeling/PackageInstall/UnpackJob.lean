import PackageInstall.Job
import PackageInstall.InstallRequest

namespace PackageInstall.UnpackJob

def registryDirectory : String := ".registry"

def mountPath : String := "/ext-pkg"

def volumeName : String := "package-contents"

def mount : VolumeMount := ⟨volumeName, mountPath⟩

def copyContainer (request : InstallRequest) : Container where
  name := "stack-package"
  image := request.image
  command := ["cp", "-R", registryDirectory, mountPath ++ "/"]
  args := []
  volumeMounts := [mount]

def executorContainer (request : InstallRequest) (executor : String) : Container where
  name := "stack-executor"
  image := executor
  command := []
  args := ["stack", "unpack", "--content-dir=" ++ mountPath ++ "/" ++ registryDirectory,
    "--permission-scope=" ++ request.scope.name]
  volumeMounts := [mount]

def podSpec (request : InstallRequest) (executor : String) : PodSpec where
  restartPolicy := some .never
  initContainers := [copyContainer request]
  containers := [executorContainer request executor]
  volumes := [⟨volumeName, some ⟨⟩⟩]

def ofRequest (request : InstallRequest) (executor : String) : Job where
  metadata :=
    { Metadata.ofName request.namespaceName request.name with
      ownerReferences := [request.asOwner] }
  spec := ⟨some 0, .empty, podSpec request executor⟩

end PackageInstall.UnpackJob
