import CsiOperator.Descriptor.Basic

/-! The drivers that an operator knows without a drivers file. -/

namespace CsiOperator.Descriptor

/-- The folder with the assets of one driver. -/
def assetFolder (folder : String) : String :=
  "csidriveroperators/" ++ folder ++ "/"

/-- The assets that every driver has. -/
def operatorAssets (folder : String) : List String :=
  -- The numbers keep the assets in the order in which they have to be applied.
  ["01_sa.yaml", "02_role.yaml", "03_rolebinding.yaml", "04_clusterrole.yaml",
    "05_clusterrolebinding.yaml"].map (assetFolder folder ++ ·)

/-- A driver with the assets of its folder. -/
def shipped (conditionPrefix : String) (platform : Platform) (driver folder : String) :
    Descriptor :=
  -- The Deployment is an asset of its own, which has its own controller.
  ((new conditionPrefix platform driver).withStaticAssets (operatorAssets folder)).withDeployment
    (assetFolder folder ++ "07_deployment.yaml")

/-- The drivers in the order in which they are considered. -/
def builtin : List Descriptor := [
  -- One of them needs a feature, since it is not generally available.
  shipped "AWSEBS" .aws "ebs.csi.aws.com" "aws-ebs",
  shipped "AzureDisk" .azure "disk.csi.azure.com" "azure-disk",
  shipped "AzureFile" .azure "file.csi.azure.com" "azure-file",
  shipped "GCPPD" .gcp "pd.csi.storage.gke.io" "gcp-pd",
  (shipped "GCPFilestore" .gcp "filestore.csi.storage.gke.io" "gcp-filestore").requireFeature
    "GCPFilestoreCSIDriver",
  shipped "VMwareVSphere" .vSphere "csi.vsphere.vmware.com" "vsphere",
  shipped "OpenStackCinder" .openStack "cinder.csi.openstack.org" "openstack-cinder",
  shipped "Manila" .openStack "manila.csi.openstack.org" "manila",
  shipped "OVirt" .oVirt "csi.ovirt.org" "ovirt",
  shipped "IBMVPCBlock" .ibmCloud "vpc.block.csi.ibm.io" "ibm-vpc-block",
  shipped "IBMPowerVSBlock" .powerVS "powervs.csi.ibm.com" "ibm-powervs-block",
  shipped "AlibabaDisk" .alibabaCloud "diskplugin.csi.alibabacloud.com" "alibaba-disk"]

end CsiOperator.Descriptor
