import SplitDns.Domestic
/-!
# The built-in domestic table

The networks of mainland China's major carrier, education and cloud allocations, one a line.
Lines that are no network would be skipped, so the built-in table never fails to load.
-/

namespace SplitDns.DomesticTable

/-- The built-in table text, one network a line. -/
def builtinText : String := String.join [
  "1.0.1.0/24\n1.0.2.0/23\n1.0.8.0/21\n1.0.32.0/19\n1.1.0.0/24\n1.1.2.0/23\n1.1.4.0/22\n",
  "1.1.8.0/24\n1.2.0.0/23\n1.2.2.0/24\n1.2.4.0/22\n1.2.8.0/21\n1.2.16.0/20\n1.2.32.0/19\n",
  "1.2.64.0/18\n1.3.0.0/16\n1.4.1.0/24\n1.4.2.0/23\n1.4.4.0/22\n1.4.8.0/21\n1.4.16.0/20\n",
  "1.4.32.0/19\n1.4.64.0/18\n1.8.0.0/16\n1.10.0.0/21\n1.10.8.0/23\n1.10.11.0/24\n",
  "1.10.12.0/22\n1.10.16.0/20\n1.10.32.0/19\n1.10.64.0/18\n1.12.0.0/14\n1.24.0.0/13\n",
  "1.45.0.0/16\n1.48.0.0/14\n1.56.0.0/13\n1.68.0.0/14\n1.80.0.0/12\n1.116.0.0/14\n",
  "1.180.0.0/14\n1.184.0.0/15\n1.188.0.0/14\n1.192.0.0/13\n1.202.0.0/15\n1.204.0.0/14\n",
  "14.16.0.0/12\n14.103.0.0/16\n14.104.0.0/13\n14.112.0.0/12\n14.130.0.0/15\n14.134.0.0/15\n",
  "14.144.0.0/12\n14.196.0.0/15\n14.204.0.0/15\n14.208.0.0/12\n27.8.0.0/13\n27.16.0.0/12\n",
  "27.36.0.0/14\n27.40.0.0/13\n27.50.128.0/17\n27.54.192.0/18\n27.98.208.0/20\n",
  "27.106.128.0/18\n27.115.0.0/17\n27.128.0.0/15\n27.144.0.0/16\n27.148.0.0/14\n",
  "27.152.0.0/13\n27.184.0.0/13\n27.192.0.0/11\n27.224.0.0/14\n36.0.0.0/22\n36.1.0.0/16\n",
  "36.4.0.0/14\n36.16.0.0/12\n36.32.0.0/14\n36.36.0.0/16\n36.40.0.0/13\n36.48.0.0/15\n",
  "36.51.0.0/16\n36.56.0.0/13\n36.96.0.0/11\n36.128.0.0/10\n36.192.0.0/11\n36.248.0.0/14\n",
  "36.254.0.0/16\n39.64.0.0/11\n39.96.0.0/13\n39.104.0.0/14\n39.108.0.0/16\n39.128.0.0/10\n",
  "42.4.0.0/14\n42.48.0.0/13\n42.56.0.0/14\n42.62.0.0/17\n42.80.0.0/15\n42.84.0.0/14\n",
  "42.88.0.0/13\n42.96.128.0/17\n42.97.0.0/16\n42.100.0.0/14\n42.120.0.0/15\n42.122.0.0/16\n",
  "42.128.0.0/12\n42.156.64.0/18\n42.156.128.0/17\n42.157.0.0/16\n42.158.0.0/15\n",
  "42.160.0.0/12\n42.176.0.0/13\n42.184.0.0/15\n42.186.0.0/16\n42.187.128.0/17\n",
  "42.192.0.0/13\n42.202.0.0/15\n42.204.0.0/14\n42.208.0.0/12\n42.224.0.0/12\n42.240.0.0/16\n",
  "42.242.0.0/15\n42.244.0.0/14\n42.248.0.0/13\n43.136.0.0/13\n47.92.0.0/14\n47.96.0.0/11\n",
  "49.4.0.0/14\n49.52.0.0/14\n49.64.0.0/11\n49.112.0.0/13\n49.120.0.0/14\n49.140.0.0/15\n",
  "49.152.0.0/14\n49.208.0.0/14\n49.220.0.0/14\n49.232.0.0/14\n58.14.0.0/15\n58.16.0.0/13\n",
  "58.24.0.0/15\n58.30.0.0/15\n58.32.0.0/11\n58.66.0.0/15\n58.68.128.0/17\n58.82.0.0/17\n",
  "58.83.0.0/16\n58.87.64.0/18\n58.99.128.0/17\n58.100.0.0/15\n58.116.0.0/14\n58.128.0.0/13\n",
  "58.144.0.0/16\n58.154.0.0/15\n58.192.0.0/11\n58.240.0.0/12\n59.32.0.0/11\n59.64.0.0/12\n",
  "59.80.0.0/14\n59.107.0.0/16\n59.108.0.0/14\n59.151.0.0/17\n59.155.0.0/16\n59.172.0.0/14\n",
  "59.191.0.0/17\n59.192.0.0/10\n60.0.0.0/11\n60.55.0.0/16\n60.63.0.0/16\n60.160.0.0/11\n",
  "60.194.0.0/15\n60.200.0.0/13\n60.208.0.0/12\n60.232.0.0/15\n60.235.0.0/16\n",
  "60.245.128.0/17\n60.247.0.0/16\n60.252.0.0/16\n60.253.128.0/17\n60.255.0.0/16\n",
  "61.4.80.0/20\n61.45.128.0/18\n61.47.128.0/18\n61.48.0.0/13\n61.128.0.0/10\n61.232.0.0/14\n",
  "61.236.0.0/15\n61.240.0.0/14\n101.4.0.0/14\n101.16.0.0/12\n101.37.0.0/16\n101.64.0.0/13\n",
  "101.80.0.0/12\n101.96.0.0/21\n101.104.0.0/14\n101.124.0.0/15\n101.132.0.0/15\n",
  "101.144.0.0/12\n101.200.0.0/15\n101.204.0.0/14\n101.224.0.0/13\n101.232.0.0/15\n",
  "101.236.0.0/14\n101.240.0.0/13\n101.248.0.0/15\n101.251.0.0/16\n101.254.0.0/16\n",
  "103.20.160.0/22\n103.21.112.0/22\n103.22.0.0/18\n103.22.64.0/19\n103.22.100.0/22\n",
  "103.24.116.0/22\n103.44.56.0/22\n103.45.0.0/18\n106.2.0.0/15\n106.4.0.0/14\n106.8.0.0/15\n",
  "106.11.0.0/16\n106.12.0.0/14\n106.16.0.0/12\n106.32.0.0/12\n106.48.0.0/15\n106.50.0.0/16\n",
  "106.52.0.0/14\n106.56.0.0/13\n106.74.0.0/15\n106.80.0.0/12\n106.108.0.0/14\n",
  "106.112.0.0/12\n106.224.0.0/12\n110.6.0.0/15\n110.16.0.0/14\n110.40.0.0/14\n",
  "110.44.0.0/15\n110.48.0.0/16\n110.51.0.0/16\n110.52.0.0/15\n110.56.0.0/13\n110.64.0.0/15\n",
  "110.72.0.0/15\n110.75.0.0/16\n110.80.0.0/13\n110.88.0.0/14\n110.94.0.0/15\n110.96.0.0/11\n",
  "110.152.0.0/14\n110.156.0.0/15\n110.166.0.0/15\n110.176.0.0/12\n110.192.0.0/11\n",
  "110.228.0.0/14\n110.236.0.0/15\n110.240.0.0/12\n111.0.0.0/10\n111.66.0.0/16\n",
  "111.72.0.0/13\n111.85.0.0/16\n111.112.0.0/14\n111.116.0.0/15\n111.120.0.0/14\n",
  "111.124.0.0/16\n111.126.0.0/15\n111.128.0.0/11\n111.160.0.0/13\n111.170.0.0/16\n",
  "111.172.0.0/14\n111.176.0.0/13\n111.186.0.0/15\n111.192.0.0/12\n111.208.0.0/13\n",
  "111.221.128.0/17\n111.222.0.0/16\n111.224.0.0/13\n112.0.0.0/10\n112.64.0.0/14\n",
  "112.73.0.0/16\n112.74.0.0/15\n112.80.0.0/12\n112.96.0.0/13\n112.109.128.0/17\n",
  "112.111.0.0/16\n112.112.0.0/14\n112.116.0.0/15\n112.122.0.0/15\n112.124.0.0/14\n",
  "112.128.0.0/14\n112.132.0.0/16\n112.192.0.0/14\n112.224.0.0/11\n113.0.0.0/13\n",
  "113.8.0.0/15\n113.12.0.0/14\n113.16.0.0/15\n113.18.0.0/16\n113.24.0.0/14\n113.31.0.0/16\n",
  "113.44.0.0/14\n113.48.0.0/14\n113.54.0.0/15\n113.56.0.0/15\n113.58.0.0/16\n113.59.0.0/17\n",
  "113.62.0.0/15\n113.64.0.0/10\n113.128.0.0/15\n113.132.0.0/14\n113.136.0.0/13\n",
  "113.194.0.0/15\n113.200.0.0/15\n113.202.0.0/16\n113.204.0.0/14\n113.208.128.0/17\n",
  "113.209.0.0/16\n113.214.0.0/15\n113.218.0.0/15\n113.220.0.0/14\n113.224.0.0/12\n",
  "113.240.0.0/13\n113.248.0.0/14\n114.28.0.0/16\n114.54.0.0/15\n114.60.0.0/14\n",
  "114.64.0.0/14\n114.68.0.0/16\n114.80.0.0/12\n114.96.0.0/13\n114.104.0.0/14\n",
  "114.112.0.0/13\n114.132.0.0/16\n114.135.0.0/16\n114.138.0.0/15\n114.196.0.0/15\n",
  "114.208.0.0/12\n114.224.0.0/11\n115.24.0.0/14\n115.28.0.0/15\n115.32.0.0/14\n",
  "115.44.0.0/14\n115.48.0.0/12\n115.100.0.0/14\n115.104.0.0/14\n115.120.0.0/14\n",
  "115.148.0.0/14\n115.152.0.0/13\n115.168.0.0/13\n115.180.0.0/14\n115.190.0.0/15\n",
  "115.192.0.0/11\n115.224.0.0/12\n116.1.0.0/16\n116.2.0.0/15\n116.4.0.0/14\n116.8.0.0/14\n",
  "116.13.0.0/16\n116.16.0.0/12\n116.52.0.0/14\n116.56.0.0/15\n116.60.0.0/14\n116.76.0.0/14\n",
  "116.85.0.0/16\n116.95.0.0/16\n116.112.0.0/14\n116.116.0.0/15\n116.128.0.0/10\n",
  "116.192.0.0/16\n116.196.0.0/16\n116.198.0.0/16\n116.204.0.0/15\n116.207.0.0/16\n",
  "116.208.0.0/14\n116.215.0.0/16\n116.216.0.0/14\n116.224.0.0/12\n116.242.0.0/15\n",
  "116.244.0.0/14\n116.248.0.0/15\n116.252.0.0/15\n117.8.0.0/13\n117.21.0.0/16\n",
  "117.22.0.0/15\n117.24.0.0/13\n117.32.0.0/13\n117.40.0.0/14\n117.44.0.0/15\n117.48.0.0/14\n",
  "117.57.0.0/16\n117.59.0.0/16\n117.60.0.0/14\n117.64.0.0/13\n117.72.0.0/15\n117.75.0.0/16\n",
  "117.76.0.0/14\n117.80.0.0/12\n117.100.0.0/15\n117.106.0.0/15\n117.112.0.0/13\n",
  "117.124.0.0/14\n117.128.0.0/10\n118.24.0.0/15\n118.26.0.0/16\n118.28.0.0/14\n",
  "118.64.0.0/15\n118.66.0.0/16\n118.72.0.0/13\n118.80.0.0/15\n118.84.0.0/15\n118.89.0.0/16\n",
  "118.112.0.0/13\n118.120.0.0/14\n118.124.0.0/15\n118.126.0.0/16\n118.132.0.0/14\n",
  "118.144.0.0/14\n118.178.0.0/16\n118.180.0.0/14\n118.184.0.0/13\n118.192.0.0/12\n",
  "118.212.0.0/15\n118.224.0.0/14\n118.228.0.0/15\n118.230.0.0/16\n118.239.0.0/16\n",
  "118.242.0.0/16\n118.244.0.0/14\n118.248.0.0/13\n119.0.0.0/15\n119.3.0.0/16\n119.4.0.0/14\n",
  "119.8.0.0/16\n119.16.0.0/16\n119.19.0.0/16\n119.20.0.0/14\n119.27.128.0/17\n",
  "119.28.0.0/15\n119.32.0.0/13\n119.41.0.0/16\n119.44.0.0/15\n119.48.0.0/13\n119.57.0.0/16\n",
  "119.58.0.0/16\n119.60.0.0/15\n119.62.0.0/16\n119.78.0.0/15\n119.80.0.0/15\n119.84.0.0/14\n",
  "119.88.0.0/14\n119.96.0.0/13\n119.108.0.0/15\n119.112.0.0/12\n119.128.0.0/12\n",
  "119.144.0.0/14\n119.162.0.0/15\n119.164.0.0/14\n119.176.0.0/12\n119.232.0.0/15\n",
  "119.248.0.0/14\n119.253.0.0/16\n119.254.0.0/15\n120.0.0.0/12\n120.24.0.0/14\n",
  "120.30.0.0/15\n120.32.0.0/12\n120.48.0.0/15\n120.52.0.0/14\n120.64.0.0/13\n120.76.0.0/14\n",
  "120.80.0.0/13\n120.90.0.0/15\n120.92.0.0/16\n120.94.0.0/15\n120.128.0.0/13\n",
  "120.192.0.0/10\n121.4.0.0/15\n121.8.0.0/13\n121.16.0.0/12\n121.32.0.0/13\n121.40.0.0/14\n",
  "121.46.0.0/15\n121.48.0.0/15\n121.51.0.0/16\n121.56.0.0/15\n121.59.0.0/16\n121.60.0.0/14\n",
  "121.68.0.0/14\n121.76.0.0/15\n121.89.0.0/16\n121.192.0.0/13\n121.201.0.0/16\n",
  "121.204.0.0/14\n121.224.0.0/12\n121.248.0.0/14\n121.255.0.0/16\n122.4.0.0/14\n",
  "122.8.0.0/13\n122.48.0.0/16\n122.51.0.0/16\n122.64.0.0/11\n122.96.0.0/15\n122.112.0.0/14\n",
  "122.119.0.0/16\n122.136.0.0/13\n122.156.0.0/14\n122.188.0.0/14\n122.192.0.0/14\n",
  "122.198.0.0/16\n122.204.0.0/14\n122.224.0.0/12\n122.240.0.0/13\n123.4.0.0/14\n",
  "123.8.0.0/13\n123.52.0.0/14\n123.56.0.0/13\n123.64.0.0/11\n123.96.0.0/15\n123.101.0.0/16\n",
  "123.112.0.0/12\n123.128.0.0/13\n123.137.0.0/16\n123.138.0.0/15\n123.144.0.0/12\n",
  "123.160.0.0/12\n123.177.0.0/16\n123.178.0.0/15\n123.180.0.0/14\n123.184.0.0/13\n",
  "123.196.0.0/15\n123.206.0.0/15\n123.232.0.0/14\n123.244.0.0/14\n123.249.0.0/16\n",
  "123.253.0.0/16\n124.14.0.0/15\n124.16.0.0/15\n124.20.0.0/14\n124.31.0.0/16\n",
  "124.42.0.0/16\n124.64.0.0/15\n124.67.0.0/16\n124.68.0.0/14\n124.72.0.0/13\n124.88.0.0/13\n",
  "124.112.0.0/13\n124.126.0.0/15\n124.128.0.0/13\n124.151.0.0/16\n124.152.0.0/16\n",
  "124.160.0.0/13\n124.172.0.0/14\n124.192.0.0/15\n124.196.0.0/16\n124.200.0.0/13\n",
  "124.220.0.0/14\n124.224.0.0/12\n124.242.0.0/16\n124.249.0.0/16\n124.250.0.0/15\n",
  "125.32.0.0/12\n125.64.0.0/11\n125.96.0.0/15\n125.98.0.0/16\n125.104.0.0/13\n",
  "125.112.0.0/12\n125.169.0.0/16\n125.171.0.0/16\n125.210.0.0/15\n125.216.0.0/13\n",
  "139.9.0.0/16\n139.129.0.0/16\n139.148.0.0/16\n139.155.0.0/16\n139.159.0.0/16\n",
  "139.170.0.0/16\n139.176.0.0/16\n139.183.0.0/16\n139.186.0.0/16\n139.189.0.0/16\n",
  "139.196.0.0/14\n139.200.0.0/13\n139.208.0.0/13\n139.217.0.0/16\n139.219.0.0/16\n",
  "139.220.0.0/15\n139.224.0.0/16\n139.226.0.0/15\n140.75.0.0/16\n140.143.0.0/16\n",
  "140.205.0.0/16\n140.206.0.0/15\n140.210.0.0/16\n140.224.0.0/16\n140.237.0.0/16\n",
  "140.240.0.0/16\n140.243.0.0/16\n140.246.0.0/16\n140.249.0.0/16\n140.250.0.0/16\n",
  "140.255.0.0/16\n144.0.0.0/16\n144.7.0.0/16\n144.12.0.0/16\n144.52.0.0/16\n144.123.0.0/16\n",
  "144.255.0.0/16\n150.0.0.0/16\n150.115.0.0/16\n150.121.0.0/16\n150.122.0.0/16\n",
  "150.138.0.0/15\n150.223.0.0/16\n150.255.0.0/16\n153.0.0.0/16\n153.3.0.0/16\n",
  "153.34.0.0/15\n153.36.0.0/15\n153.99.0.0/16\n153.101.0.0/16\n153.118.0.0/15\n",
  "157.0.0.0/16\n157.18.0.0/16\n157.61.0.0/16\n157.122.0.0/16\n157.148.0.0/16\n",
  "157.156.0.0/16\n157.255.0.0/16\n159.226.0.0/16\n161.207.0.0/16\n162.105.0.0/16\n",
  "163.0.0.0/16\n163.125.0.0/16\n163.136.0.0/13\n163.177.0.0/16\n163.179.0.0/16\n",
  "163.204.0.0/16\n166.111.0.0/16\n167.139.0.0/16\n167.189.0.0/16\n168.160.0.0/16\n",
  "171.8.0.0/13\n171.34.0.0/15\n171.36.0.0/14\n171.40.0.0/13\n171.80.0.0/12\n171.104.0.0/13\n",
  "171.112.0.0/12\n171.208.0.0/12\n175.0.0.0/12\n175.16.0.0/13\n175.24.0.0/14\n",
  "175.30.0.0/15\n175.42.0.0/15\n175.44.0.0/16\n175.46.0.0/15\n175.48.0.0/12\n175.64.0.0/11\n",
  "175.102.0.0/16\n175.146.0.0/15\n175.148.0.0/14\n175.152.0.0/14\n175.160.0.0/12\n",
  "175.178.0.0/16\n175.185.0.0/16\n175.186.0.0/15\n175.188.0.0/14\n180.76.0.0/14\n",
  "180.84.0.0/15\n180.86.0.0/16\n180.88.0.0/14\n180.96.0.0/11\n180.130.0.0/16\n",
  "180.136.0.0/13\n180.152.0.0/13\n180.160.0.0/12\n180.184.0.0/14\n180.201.0.0/16\n",
  "180.202.0.0/15\n180.208.0.0/15\n180.212.0.0/15\n180.223.0.0/16\n182.32.0.0/12\n",
  "182.49.0.0/16\n182.51.0.0/16\n182.61.0.0/16\n182.80.0.0/13\n182.88.0.0/14\n182.92.0.0/16\n",
  "182.96.0.0/11\n182.128.0.0/12\n182.144.0.0/13\n182.157.0.0/16\n182.174.0.0/15\n",
  "182.200.0.0/13\n182.238.0.0/16\n182.240.0.0/13\n182.254.0.0/16\n183.0.0.0/10\n",
  "183.64.0.0/13\n183.84.0.0/15\n183.92.0.0/14\n183.128.0.0/11\n183.160.0.0/13\n",
  "183.168.0.0/15\n183.170.0.0/16\n183.172.0.0/14\n183.184.0.0/13\n183.192.0.0/10\n",
  "202.38.64.0/19\n202.96.0.0/12\n202.112.0.0/13\n202.120.0.0/15\n202.127.192.0/18\n",
  "202.192.0.0/12\n203.86.0.0/19\n203.88.32.0/19\n203.88.192.0/19\n203.90.128.0/18\n",
  "203.90.192.0/19\n203.91.32.0/19\n203.92.160.0/19\n203.93.0.0/16\n203.94.0.0/19\n",
  "203.95.96.0/19\n203.100.96.0/19\n203.110.160.0/19\n203.118.192.0/19\n203.119.24.0/21\n",
  "203.119.128.0/17\n203.128.32.0/19\n203.128.96.0/19\n203.130.32.0/19\n203.132.32.0/19\n",
  "203.135.96.0/19\n203.148.0.0/18\n203.152.64.0/19\n203.156.192.0/18\n203.161.192.0/19\n",
  "203.166.160.0/19\n203.174.96.0/19\n203.175.128.0/19\n203.175.192.0/18\n203.187.160.0/19\n",
  "203.191.64.0/18\n203.192.0.0/19\n203.207.64.0/18\n203.207.128.0/17\n203.208.32.0/19\n",
  "203.209.224.0/19\n210.2.0.0/19\n210.5.0.0/19\n210.12.0.0/15\n210.14.128.0/17\n",
  "210.15.0.0/17\n210.15.128.0/18\n210.16.128.0/18\n210.21.0.0/16\n210.22.0.0/16\n",
  "210.25.0.0/16\n210.26.0.0/15\n210.28.0.0/14\n210.32.0.0/12\n210.51.0.0/16\n210.52.0.0/15\n",
  "210.72.0.0/14\n210.76.0.0/15\n210.78.0.0/16\n210.82.0.0/15\n210.185.192.0/18\n",
  "210.192.96.0/19\n211.64.0.0/13\n211.80.0.0/12\n211.96.0.0/13\n211.136.0.0/13\n",
  "211.144.0.0/12\n211.160.0.0/13\n218.0.0.0/11\n218.56.0.0/13\n218.64.0.0/11\n",
  "218.96.0.0/14\n218.104.0.0/14\n218.108.0.0/15\n218.192.0.0/12\n218.240.0.0/13\n",
  "218.249.0.0/16\n219.72.0.0/16\n219.82.0.0/16\n219.83.128.0/17\n219.128.0.0/11\n",
  "219.216.0.0/13\n219.224.0.0/12\n219.242.0.0/15\n219.244.0.0/14\n220.112.0.0/14\n",
  "220.152.128.0/17\n220.154.0.0/15\n220.160.0.0/11\n220.192.0.0/12\n220.231.128.0/17\n",
  "220.234.0.0/16\n220.242.0.0/15\n220.248.0.0/14\n220.252.0.0/16\n221.0.0.0/13\n",
  "221.8.0.0/14\n221.12.0.0/17\n221.13.0.0/16\n221.14.0.0/15\n221.122.0.0/15\n",
  "221.129.0.0/16\n221.130.0.0/15\n221.136.0.0/15\n221.172.0.0/14\n221.176.0.0/13\n",
  "221.192.0.0/11\n221.224.0.0/12\n222.16.0.0/12\n222.32.0.0/11\n222.64.0.0/11\n",
  "222.125.0.0/16\n222.128.0.0/12\n222.160.0.0/14\n222.168.0.0/13\n222.176.0.0/12\n",
  "222.192.0.0/11\n222.240.0.0/13\n222.248.0.0/15\n223.0.0.0/15\n223.2.0.0/16\n223.4.0.0/14\n",
  "223.8.0.0/13\n223.20.0.0/15\n223.64.0.0/11\n223.96.0.0/12\n223.112.0.0/14\n",
  "223.116.0.0/15\n223.120.0.0/13\n223.128.0.0/15\n223.144.0.0/12\n223.160.0.0/14\n",
  "223.166.0.0/15\n223.192.0.0/15\n223.198.0.0/15\n223.201.0.0/16\n223.202.0.0/15\n",
  "223.208.0.0/13\n223.220.0.0/15\n223.240.0.0/13\n223.248.0.0/14\n223.252.128.0/17\n",
  "223.254.0.0/16\n223.255.0.0/17\n2001:250::/32\n2001:cc0::/32\n2001:da8::/32\n",
  "2400:3200::/32\n2400:da00::/32\n2402:4e00::/32\n2408:8000::/20\n2409:8000::/20\n",
  "240e::/20\n"]

/-- The built-in table: the networks of `builtinText` that parse. -/
def builtin : DomesticTable :=
  ofNetworks ((lines builtinText).filterMap Cidr.parse?)

end SplitDns.DomesticTable
