import CsiOperator.Decode.Source

/-! The infrastructure providers a cluster may run on. -/

namespace CsiOperator

/-- The provider of a cluster's machines. -/
inductive Platform where
  /-- Amazon Web Services. -/
  | aws
  /-- Microsoft Azure. -/
  | azure
  /-- Machines without a provider. -/
  | bareMetal
  /-- Google Cloud. -/
  | gcp
  /-- Libvirt. -/
  | libvirt
  /-- OpenStack. -/
  | openStack
  /-- No integration with a provider. -/
  | nonIntegrated
  /-- VMware vSphere. -/
  | vSphere
  /-- The oVirt virtualization manager. -/
  | oVirt
  /-- IBM Cloud. -/
  | ibmCloud
  /-- IBM Power virtual servers. -/
  | powerVS
  /-- Alibaba Cloud. -/
  | alibabaCloud
  /-- Nutanix. -/
  | nutanix
  /-- A provider integrated from outside. -/
  | external
  /-- Any provider without a name here. -/
  | unknown
  deriving DecidableEq, Repr, Inhabited

namespace Platform

/-- The name of a platform in documents. -/
def name : Platform → String
  -- The spelling is that of the cluster, which is not the same for all of them.
  | aws => "AWS"
  | azure => "Azure"
  | bareMetal => "BareMetal"
  | gcp => "GCP"
  | libvirt => "Libvirt"
  | openStack => "OpenStack"
  | nonIntegrated => "None"
  | vSphere => "VSphere"
  | oVirt => "oVirt"
  | ibmCloud => "IBMCloud"
  | powerVS => "PowerVS"
  | alibabaCloud => "AlibabaCloud"
  | nutanix => "Nutanix"
  | external => "External"
  | unknown => "Unknown"

/-- The name of a platform in diagnostics, which always begins with a capital letter. -/
def label : Platform → String
  -- Only one of the names begins with a small letter.
  | oVirt => "Ovirt"
  | p => p.name

/-- Every platform with a name of its own. -/
def recognized : List Platform :=
  -- The unknown platform has no name of its own, although it is written under one.
  [aws, azure, bareMetal, gcp, libvirt, openStack, nonIntegrated, vSphere, oVirt, ibmCloud,
    powerVS, alibabaCloud, nutanix, external]

/-- The platform that a name stands for; a name that is not recognized stands for an unknown one. -/
def ofName (name : String) : Platform :=
  (recognized.find? fun p => p.name == name).getD unknown

/-- A platform keeps its name through documents. -/
theorem ofName_name (p : Platform) : ofName p.name = p := by
  cases p <;> decide +kernel

/-- Reads a platform by name. -/
def read {ν : Type} [Decode.Source ν] (node : ν) : Decode.Read Platform :=
  Decode.variant (fun name => some (ofName name)) node

end Platform

end CsiOperator
