import TestSys.Run
import TestSys.Process
import TestSys.Agent
import TestSys.Eks.Model
import TestSys.Eks.Trace
import TestSys.Eks.ClusterConfig
import TestSys.Eks.ConfigFile
import TestSys.Eks.DnsIp
import TestSys.Eks.Stacks
import TestSys.Eks.Describe
import TestSys.Eks.Create
import TestSys.Eks.Destroy
import TestSys.Eks.Lifecycle
import TestSys.Eks.Target
import TestSys.Eks.Failures
import TestSys.Workload
import TestSys.Selftest.Cluster
